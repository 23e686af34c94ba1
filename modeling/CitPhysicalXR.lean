import CitPhysicalXR.Adapters.Deadman
import CitPhysicalXR.Adapters.LifecycleConformance
import CitPhysicalXR.Adapters.WorkerClient
import CitPhysicalXR.Blocks.LostBlocks
import CitPhysicalXR.Blocks.SourceMap
import CitPhysicalXR.Blocks.TextIsolation
import CitPhysicalXR.Bridge.ControlRoutes
import CitPhysicalXR.Bridge.CursorSafety
import CitPhysicalXR.Bridge.EventDelivery
import CitPhysicalXR.Bridge.LifecycleDurability
import CitPhysicalXR.Bridge.StageOrder
import CitPhysicalXR.Camera.ImportPacing
import CitPhysicalXR.Camera.PlaybackMatching
import CitPhysicalXR.Camera.TransferReceipts
import CitPhysicalXR.Fabric.ConnectionOwnership
import CitPhysicalXR.Fabric.ConsoleTickets
import CitPhysicalXR.Fabric.LanAllowlist
import CitPhysicalXR.Fabric.Leases
import CitPhysicalXR.Fabric.LifecycleRedelivery
import CitPhysicalXR.Fabric.NodeLoss
import CitPhysicalXR.Fabric.ReconnectSupervision
import CitPhysicalXR.Fabric.Revocation
import CitPhysicalXR.Fabric.StoredOrder
import CitPhysicalXR.Fabric.Streams
import CitPhysicalXR.Lego.DriveUnits
import CitPhysicalXR.Lego.InputLoop
import CitPhysicalXR.Lego.ProgramText
import CitPhysicalXR.Lego.ReplyMatching
import CitPhysicalXR.Media.JpegDimensions
import CitPhysicalXR.Media.LatestFrames
import CitPhysicalXR.Plugs.MatterCorrelation
import CitPhysicalXR.Plugs.PlugExecution
import CitPhysicalXR.Plugs.SaveAtomicity
import CitPhysicalXR.Plugs.SignedPayloads
import CitPhysicalXR.Plugs.UnlockCooldown
import CitPhysicalXR.Printer.PrintStart
import CitPhysicalXR.Projects.CrashSafety
import CitPhysicalXR.Runtime.ArmLocality
import CitPhysicalXR.Runtime.AtMostOnce
import CitPhysicalXR.Runtime.BindingAtomicity
import CitPhysicalXR.Runtime.CommandQueue
import CitPhysicalXR.Runtime.EventWindow
import CitPhysicalXR.Runtime.MovementBounds
import CitPhysicalXR.Runtime.Recorder
import CitPhysicalXR.Runtime.RegistryUpdates
import CitPhysicalXR.Runtime.ReplayIsolation
import CitPhysicalXR.Runtime.Retention
import CitPhysicalXR.Runtime.StudentContainment
import CitPhysicalXR.Runtime.Submissions
import CitPhysicalXR.Runtime.WatchdogPoll
import CitPhysicalXR.Studio.Autosave
