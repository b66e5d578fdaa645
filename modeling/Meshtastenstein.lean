import Meshtastenstein.Lib.Bounded
import Meshtastenstein.Lib.RingBuffer
import Meshtastenstein.Lib.Bytes
import Meshtastenstein.Lib.Words
import Meshtastenstein.Lib.Ledger
import Meshtastenstein.Lib.Protobuf
import Meshtastenstein.Lib.Transition
import Meshtastenstein.Lib.Unwinding
import Meshtastenstein.Lib.Queues
import Meshtastenstein.Lib.Outcome
import Meshtastenstein.Lib.SingleSlot
import Meshtastenstein.Lib.CircularQueue
import Meshtastenstein.Lib.NorFlash
import Meshtastenstein.Lib.Record
import Meshtastenstein.Proto
import Meshtastenstein.Constants
import Meshtastenstein.RadioConfig
import Meshtastenstein.Environment
import Meshtastenstein.Crypto
import Meshtastenstein.Wire
import Meshtastenstein.KnownAnswers
import Meshtastenstein.Packet
import Meshtastenstein.Channels
import Meshtastenstein.Device
import Meshtastenstein.NodeDb
import Meshtastenstein.Router
import Meshtastenstein.Tx
import Meshtastenstein.Storage
import Meshtastenstein.Context
import Meshtastenstein.Handlers.Util
import Meshtastenstein.Handlers.Admin
import Meshtastenstein.Handlers.FromRadio
import Meshtastenstein.Handlers.FromApp
import Meshtastenstein.Handlers.Periodic
import Meshtastenstein.MeshTask
import Meshtastenstein.NodeDbEdits
import Meshtastenstein.Effects
import Meshtastenstein.Core
import Meshtastenstein.Holdings
import Meshtastenstein.Encryption
import Meshtastenstein.PhoneSend
import Meshtastenstein.Reception
import Meshtastenstein.Runs
import Meshtastenstein.AuthGate
import Meshtastenstein.Delivery
import Meshtastenstein.ReplyChannel
import Meshtastenstein.Reports
import Meshtastenstein.Originations
import Meshtastenstein.PacketIds
import Meshtastenstein.RebroadcastQueue
import Meshtastenstein.RelayState
import Meshtastenstein.Relaying
import Meshtastenstein.RelayOnce
import Meshtastenstein.RelayAgreement
import Meshtastenstein.Interference
import Meshtastenstein.DirectedRelay
import Meshtastenstein.Acknowledgements
import Meshtastenstein.Bridge
import Meshtastenstein.ConfigExchange
import Meshtastenstein.Outcomes
import Meshtastenstein.BleTask
import Meshtastenstein.BleSessions
import Meshtastenstein.AdminSession
import Meshtastenstein.Blocking
import Meshtastenstein.DirtyFlag
import Meshtastenstein.Persistence
import Meshtastenstein.Snapshot
import Meshtastenstein.NodeRecord
import Meshtastenstein.NvsStorage
import Meshtastenstein.Sectors
import Meshtastenstein.MessageRing
import Meshtastenstein.RingCrashes
import Meshtastenstein.FactoryReset
import Meshtastenstein.Watchdog
import Meshtastenstein.LowBattery
import Meshtastenstein.SleepDurability
import Meshtastenstein.LinkState
import Meshtastenstein.Replay
import Meshtastenstein.StoreForward
import Meshtastenstein.DuplicateRing
import Meshtastenstein.HopUpgrade
import Meshtastenstein.FromRadioSlot
import Meshtastenstein.PhoneWire
import Meshtastenstein.MessageRoom
import Meshtastenstein.HeardPositions
import Meshtastenstein.ShortMessages
import Meshtastenstein.WireRoom
import Meshtastenstein.FromRadioBytes
import Meshtastenstein.RemoteAdmin
import Meshtastenstein.ConfigRecord
import Meshtastenstein.ChannelTable
import Meshtastenstein.ChannelRuns
import Meshtastenstein.SettingsRuns
import Meshtastenstein.SavedScalars
import Meshtastenstein.LoraLoop
import Meshtastenstein.DutyCycle
import Meshtastenstein.Bonds
import Meshtastenstein.BondTask
import Meshtastenstein.BondCopies
import Meshtastenstein.NodeDbEntries
import Meshtastenstein.SnapshotRoundTrip
import Meshtastenstein.NodeDbOperations
import Meshtastenstein.DecryptVerdict
import Meshtastenstein.DestinationRelay
import Meshtastenstein.UsableChannels
import Meshtastenstein.NodeinfoThrottle
import Meshtastenstein.OnlineCount
import Meshtastenstein.RetryRuns
import Meshtastenstein.Frequency
import Meshtastenstein.DutyTimings
import Meshtastenstein.RadioSetup
import Meshtastenstein.RawConfig
import Meshtastenstein.BondRecord
import Meshtastenstein.MessageQueue
import Meshtastenstein.Setters
import Meshtastenstein.NeighborBroadcast
import Meshtastenstein.Lib.Network
import Meshtastenstein.Keys
import Meshtastenstein.Pieces
import Meshtastenstein.MeshNetwork
import Meshtastenstein.SnapshotRuns
import Meshtastenstein.EndToEnd
import Meshtastenstein.Flooding
import Meshtastenstein.Lib.Flow
import Meshtastenstein.LoraTask
import Meshtastenstein.RadioBoard
import Meshtastenstein.FlashRecords
import Meshtastenstein.Upkeep
import Meshtastenstein.Identity
import Meshtastenstein.HeardNotes
import Meshtastenstein.Journeys
import Meshtastenstein.Lib.Timer
import Meshtastenstein.RebroadcastTimer
import Meshtastenstein.Lib.Progress
import Meshtastenstein.RelayProgress
import Meshtastenstein.Coverage
import Meshtastenstein.Retention
