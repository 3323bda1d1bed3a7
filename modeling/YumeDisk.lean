import YumeDisk.Lib.Run
import YumeDisk.Lib.Linear
import YumeDisk.Lib.Ownership
import YumeDisk.Lib.Nested
import YumeDisk.Lib.ZeroGate
import YumeDisk.Lib.Thread
import YumeDisk.Cache.ResidentView
import YumeDisk.Cache.System
import YumeDisk.Cache.BlockTiling
import YumeDisk.Cache.TwoQueue
import YumeDisk.Cache.TempDirectory
import YumeDisk.Cache.ForegroundSpec
import YumeDisk.Cache.WorkerSpec
import YumeDisk.Cache.Linearizable
import YumeDisk.Cache.Exclusion
import YumeDisk.Cache.TempFiles
import YumeDisk.Cache.Wakeups
import YumeDisk.Cache.FlatStore
import YumeDisk.Cache.FlushFairness
import YumeDisk.Server.ClientStream
import YumeDisk.Server.Authorization
import YumeDisk.Miniport.ExactlyOnce
import YumeDisk.Kmdf.ControlMessage
import YumeDisk.Miniport.IoControl
import YumeDisk.Miniport.SlotShape
import YumeDisk.Miniport.WriteCompletion
import YumeDisk.Miniport.WriteHistory
import YumeDisk.Miniport.Reservations
import YumeDisk.Kmdf.Claimable
import YumeDisk.Kmdf.DrainSafety
import YumeDisk.AppKernel.ReadIntegrity
import YumeDisk.AppKernel.WriteFinality
import YumeDisk.Backend.DiskBounds
import YumeDisk.Server.SessionSafety
import YumeDisk.Server.StorerCore
import YumeDisk.Server.LinkFraming
import YumeDisk.Server.LinkCorrelation
import YumeDisk.Server.SessionRegistry
import YumeDisk.Server.SessionPlane
import YumeDisk.Server.RouteTeardown
import YumeDisk.Server.TeardownNotices
import YumeDisk.Server.UpstreamSessions
import YumeDisk.Server.WholeMode
import YumeDisk.Kmdf.SlotHandOff
import YumeDisk.Backend.HandleSafety
import YumeDisk.Backend.StagingHistory
import YumeDisk.Client.Agreement
import YumeDisk.Client.ClosedSessions
import YumeDisk.Client.FrameStream
import YumeDisk.Client.PooledConnection
import YumeDisk.Server.Config
import YumeDisk.AppKernel.WorkerSizing
import YumeDisk.TauriClient.MemoryMedia
import YumeDisk.AppKernel.ResponseQueue
import YumeDisk.TauriClient.MediumSafety
import YumeDisk.TauriClient.FreshIds
import YumeDisk.Cache.IndexedListRuns
import YumeDisk.Cache.WaiterCount
import YumeDisk.Cache.HeldBlocks
import YumeDisk.TauriClient.NetworkMedia
import YumeDisk.TauriClient.CachedDisk
import YumeDisk.TauriClient.RescanResolution
import YumeDisk.TauriClient.Stores
import YumeDisk.TauriClient.CommandEffects
import YumeDisk.TauriClient.Naming
import YumeDisk.TauriClient.Submission
import YumeDisk.TauriClient.Atomicity
import YumeDisk.TauriClient.NetworkEject
import YumeDisk.Client.TransportQueue
import YumeDisk.Client.Correlation
import YumeDisk.Client.Disconnected
import YumeDisk.Client.Shutdown
import YumeDisk.Client.Hello
import YumeDisk.Server.Admission
import YumeDisk.Client.Admission
import YumeDisk.Miniport.ScsiCommands
import YumeDisk.Kmdf.Dispatch
