import A2AShim.Lib.Machine
import A2AShim.Wire.Rpc
import A2AShim.Serve.Translate
import A2AShim.Serve.SseSink
import A2AShim.Serve.TaskRegistry
import A2AShim.Serve.AcpClient
import A2AShim.Serve.AcpLiveness
import A2AShim.Serve.BridgeOutcome
import A2AShim.Serve.Rejections
import A2AShim.Serve.StreamTurn
import A2AShim.Serve.TaskWriters
import A2AShim.Serve.PushOnce
import A2AShim.Serve.SseBody
import A2AShim.Serve.CallerPartition
import A2AShim.Serve.ConversationRows
import A2AShim.Serve.TaskRows
import A2AShim.Serve.TaskFrozen
import A2AShim.Serve.FinalFrames
import A2AShim.Serve.ConversationMode
import A2AShim.Serve.GuardCovers
import A2AShim.Serve.SentTask
import A2AShim.Serve.Continuation
import A2AShim.Serve.CancelTarget
import A2AShim.Serve.ResetTargets
import A2AShim.Serve.TaskPages
import A2AShim.Serve.TaskViews
import A2AShim.Serve.PublishedEvents
import A2AShim.Client.AnswerFidelity
import A2AShim.Client.Verdict
import A2AShim.Client.McpReplies
import A2AShim.Client.HostCancel
import A2AShim.Client.ProgressOrder
import A2AShim.Client.WholeCall
import A2AShim.Serve.RecoveredRows
import A2AShim.Serve.PushFailures
import A2AShim.Serve.PushMirror
import A2AShim.Serve.Projection
import A2AShim.Lib.Script
import A2AShim.Wire.LegacyParts
import A2AShim.Client.HeartbeatTail
import A2AShim.Client.SameArtifacts
import A2AShim.Client.ToolSchema
import A2AShim.Client.HardCeiling
import A2AShim.Serve.NormalForm
import A2AShim.Serve.ReinsertedRows
import A2AShim.Serve.Migration
import A2AShim.Serve.ResetFrame
import A2AShim.Serve.IdleSweep
import A2AShim.Serve.Permission
import A2AShim.Serve.RetrySchedule
import A2AShim.Serve.CallerHeader
import A2AShim.Client.StdinLines
import A2AShim.Serve.AgentCommand
import A2AShim.Serve.PushTimestamps
import A2AShim.Serve.Completion
import A2AShim.Serve.SessionKeys
import A2AShim.Serve.PushService
import A2AShim.Serve.OneRequest
