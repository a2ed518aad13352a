import Nrg5.AdvertisementFrames
import Nrg5.Aging
import Nrg5.Agreement
import Nrg5.ArpHistory
import Nrg5.BaseStation
import Nrg5.CallParts
import Nrg5.Common
import Nrg5.Control
import Nrg5.ControlSize
import Nrg5.CrcTables
import Nrg5.Data
import Nrg5.DataRoundTrip
import Nrg5.Deadlock
import Nrg5.Delivery
import Nrg5.DeliveryCalls
import Nrg5.Device
import Nrg5.Forward
import Nrg5.Fwding.Compiled
import Nrg5.Fwding.Locking
import Nrg5.HandlerRules
import Nrg5.Handlers
import Nrg5.HashCrc
import Nrg5.Layer
import Nrg5.Learning
import Nrg5.Lib.AgingTable
import Nrg5.Lib.ByteStream
import Nrg5.Lib.Bytes
import Nrg5.Lib.Crc
import Nrg5.Lib.HashChain
import Nrg5.Lib.HashedTable
import Nrg5.Lib.HeapTable
import Nrg5.Lib.HopRoute
import Nrg5.Lib.Keeps
import Nrg5.Lib.KeyedList
import Nrg5.Lib.LinkedList
import Nrg5.Lib.LockOrder
import Nrg5.Lib.LockProg
import Nrg5.Lib.Lockstep
import Nrg5.Lib.Monitor
import Nrg5.Lib.ObjectDict
import Nrg5.Lib.ReadLoop
import Nrg5.Lib.RecvEach
import Nrg5.Lib.Sequence
import Nrg5.Lib.ThreadRoles
import Nrg5.Lib.Threads
import Nrg5.LockBalance
import Nrg5.LossAccounting
import Nrg5.NeighborState
import Nrg5.Network.Advertisement
import Nrg5.Network.BsEffects
import Nrg5.Network.Calls
import Nrg5.Network.DataIntegrity
import Nrg5.Network.DeviceEffects
import Nrg5.Network.Effects
import Nrg5.Network.Exchange
import Nrg5.Network.Gateway
import Nrg5.Network.Message
import Nrg5.Network.Model
import Nrg5.Network.PacketOrigin
import Nrg5.Network.Provenance
import Nrg5.Network.Relay
import Nrg5.Network.ReportIntegrity
import Nrg5.Network.RoundTrip
import Nrg5.Network.RouteInvariant
import Nrg5.Network.Routes
import Nrg5.Network.Schedule
import Nrg5.Network.Settled
import Nrg5.Network.Vtsd
import Nrg5.Packet
import Nrg5.PowerMeter
import Nrg5.ReceivedData
import Nrg5.RouteMap
import Nrg5.Rules
import Nrg5.RxLoop
import Nrg5.SendResults
import Nrg5.StaleBytes
import Nrg5.StaleProbes
import Nrg5.Survival.BaseStation
import Nrg5.Survival.Basic
import Nrg5.Survival.Device
import Nrg5.TableLocks
import Nrg5.TableRaces
import Nrg5.Tables
import Nrg5.TablesInMemory
import Nrg5.Translator
import Nrg5.TranslatorReplies
import Nrg5.VnfFraming
import Nrg5.VnfReaders
import Nrg5.VnfReads
import Nrg5.VnfStream
import Nrg5.VnfTable
import Nrg5.VnfWrites
import Nrg5.Vson.Commuting
import Nrg5.Vson.Consistency
import Nrg5.Vson.Counts
import Nrg5.Vson.Deletion
import Nrg5.Vson.Expiry
import Nrg5.Vson.Export
import Nrg5.Vson.Facts
import Nrg5.Vson.Grammar
import Nrg5.Vson.Graph
import Nrg5.Vson.Integrity
import Nrg5.Vson.Marking
import Nrg5.Vson.Merging
import Nrg5.Vson.Netgraph
import Nrg5.Vson.Registration
import Nrg5.Vson.Report
import Nrg5.Vson.Southbound
import Nrg5.VtsdLoop
import Nrg5.Wifi
