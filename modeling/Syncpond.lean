import Syncpond.Library.Maps
import Syncpond.Library.Channel
import Syncpond.Library.JsonText
import Syncpond.Library.Lru
import Syncpond.Consistency
import Syncpond.DeletedBucket
import Syncpond.DeletedRoom
import Syncpond.DeltaSnapshot
import Syncpond.Reload
import Syncpond.BroadcastOrder
import Syncpond.BucketLabels
import Syncpond.StoreAgreement
import Syncpond.Hub
import Syncpond.HubDeadlock
import Syncpond.ReservedBucket
import Syncpond.RoomIsolation
import Syncpond.Acknowledgement
import Syncpond.HubIndex
import Syncpond.Transactions
import Syncpond.UnloadedRooms
import Syncpond.Delivery
import Syncpond.DroppedClients
import Syncpond.InitialSyncs
import Syncpond.Library.Overlay
import Syncpond.Reconnect
import Syncpond.SerialWrites
import Syncpond.SilentGaps
import Syncpond.SyncCoverage
import Syncpond.SyncOrder
import Syncpond.Library.Subscription
import Syncpond.RoomContent
import Syncpond.SequentialRuns
import Syncpond.Subscribers
import Syncpond.Admission
import Syncpond.ClientMessages
import Syncpond.ClientProtocol
import Syncpond.ClientReconnect
import Syncpond.DeltaReload
import Syncpond.IssuedTokens
import Syncpond.Lifetimes
import Syncpond.Members
import Syncpond.RefusedCommands
import Syncpond.RoomIds
import Syncpond.TokenOrigin
import Syncpond.Versions
import Syncpond.SyncSnapshot
import Syncpond.WriteFrames
import Syncpond.CommittedOperations
import Syncpond.StorageRuns
import Syncpond.FailedUpdates
import Syncpond.PartialLoads
import Syncpond.LoadRace
import Syncpond.GrantedViews
import Syncpond.HubBroadcast
import Syncpond.HubReregistration
import Syncpond.TokenTimes
import Syncpond.RoomLabels
import Syncpond.VersionStamps
import Syncpond.ClientCounters
import Syncpond.ClientPromises
import Syncpond.ReadYourWrites
import Syncpond.Library.Invariants
import Syncpond.StorageInvariants
import Syncpond.GrantedFrames
import Syncpond.Durability
import Syncpond.ClientSessions
import Syncpond.Recovery
import Syncpond.RoomObjects
import Syncpond.RoomListings
