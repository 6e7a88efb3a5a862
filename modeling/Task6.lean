import Task6.Library.Machine
import Task6.Library.Pool
import Task6.Library.Progress
import Task6.Library.Refinement
import Task6.Library.NulText
import Task6.Library.WideText
import Task6.Library.Ownership
import Task6.Library.Constructor
import Task6.Win32
import Task6.CRuntime
import Task6.ControllerOptions
import Task6.Pipes.PipeState
import Task6.Pipes.InPipeServer
import Task6.Pipes.PipeSystem
import Task6.Pipes.SlotPhase
import Task6.Pipes.GhostSafety
import Task6.Pipes.StuckFlags
import Task6.SharedMemory.Transfer
import Task6.SharedMemory.RoundTrip
import Task6.SharedMemory.Handoff
import Task6.SharedMemory.Turn
import Task6.SharedMemory.MutualExclusion
import Task6.SharedMemory.GetData
import Task6.SharedMemory.HandoffSteps
import Task6.SharedMemory.Texts
import Task6.SharedMemory.Sequential
import Task6.SharedMemory.HandoffProgress
import Task6.Server.Shutdown
import Task6.SharedMemory.TurnLoss
import Task6.Server.ShutdownWakes
import Task6.Server.Teardown
import Task6.Server.ShutdownProgress
import Task6.Server.PipeWorkers
import Task6.Server.ServerPipe
import Task6.Server.PipeLife
import Task6.Server.SlotLoss
import Task6.Server.Delivery
import Task6.Server.SoloRun
import Task6.Server.DeliveryProgress
import Task6.Server.Framing
import Task6.Pipes.ServiceResult
import Task6.Pipes.DisconnectRace
import Task6.Pipes.Connected
import Task6.Pipes.FailedStarts
import Task6.Server.MessageLog
import Task6.Server.ServerConsole
import Task6.Client.OutPipeClient
import Task6.Client.WriteReports
import Task6.Client.Leftovers
import Task6.Client.Task6Client
import Task6.Client.Starts
import Task6.Client.Sessions
import Task6.Client.Announcements
import Task6.Client.Connection
import Task6.Raii.RaiiLock
import Task6.Raii.RaiiHandle
import Task6.Raii.RaiiHKey
import Task6.Utility.Registry
import Task6.Utility.RunOnStartup
import Task6.Utility.PathMatches
import Task6.Utility.Inverse
import Task6.Utility.StartupTest
import Task6.Server.StartupQuestion
import Task6.Client.ClientConsole
import Task6.Client.ConsoleSession
import Task6.Client.EndOfInput
import Task6.Server.Task6System
import Task6.Server.ShutdownRefined
import Task6.Server.HandoffRefined
import Task6.Server.PipesRefined
import Task6.Server.SystemStops
import Task6.Server.Construction
import Task6.Server.Lifetime
import Task6.Server.EndToEnd
import Task6.Library.Decimal
import Task6.Server.LogReader
import Task6.Server.LogTells
import Task6.Server.SystemLog
