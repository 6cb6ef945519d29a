import CarrierPigeon.Basic
import CarrierPigeon.Net.Header
import CarrierPigeon.Net.CIdSpec
import CarrierPigeon.Connection.ConnectionList
import CarrierPigeon.HashMap
import CarrierPigeon.Connection.AckSystem.Basic
import CarrierPigeon.Connection.AckSystem.Window
import CarrierPigeon.Connection.AckSystem.Saved
import CarrierPigeon.Connection.AckSystem.TwoPeer
import CarrierPigeon.Connection.AckSystem.Retention
import CarrierPigeon.Connection.AckSystem.Shape
import CarrierPigeon.Connection.AckSystem.Received
import CarrierPigeon.Connection.AckSystem.Reachable
import CarrierPigeon.Connection.AckSystem.Eviction
import CarrierPigeon.Connection.AckSystem.RoundRobin
import CarrierPigeon.Connection.AckSystem.Sides
import CarrierPigeon.MessageTable
import CarrierPigeon.MessageTable.Build
import CarrierPigeon.Connection.Client.Basic
import CarrierPigeon.Connection.Client.Handshake
import CarrierPigeon.Connection.Client.Faults
import CarrierPigeon.Connection.Client.Phase
import CarrierPigeon.Connection.Client.Delivery
