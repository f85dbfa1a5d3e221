import A2AShim.Wire.Message

/-!
# Tasks and stream events

`Task`, `TaskState`, `Artifact` and the two kinds of server-sent event.
-/

namespace A2AShim

structure TaskId where
  text : String
  deriving DecidableEq, Repr, Hashable

inductive TaskState where
  | submitted
  | working
  | inputRequired
  | completed
  | failed
  | canceled
  deriving DecidableEq, Repr

/-- `TaskState::is_terminal`: no further updates, transitions or cancellation
are accepted. -/
def TaskState.isTerminal : TaskState → Bool
  | .completed | .failed | .canceled => true
  | _ => false

structure TaskStatus where
  state : TaskState
  message : Option Message
  timestamp : Option String
  deriving DecidableEq, Repr

structure Artifact where
  artifactId : Option String
  name : Option String
  parts : List Part
  metadata : Option Value
  deriving DecidableEq, Repr

structure Task where
  id : TaskId
  contextId : Option String
  status : TaskStatus
  history : List Message
  artifacts : List Artifact
  metadata : Option Value
  deriving DecidableEq, Repr

structure TaskStatusEnvelope where
  taskId : TaskId
  contextId : Option String
  status : TaskStatus
  final : Bool
  deriving DecidableEq, Repr

structure TaskArtifactEnvelope where
  taskId : TaskId
  contextId : Option String
  artifact : Artifact
  append : Bool
  deriving DecidableEq, Repr

inductive SseEvent where
  | statusUpdate (inner : TaskStatusEnvelope)
  | artifactUpdate (inner : TaskArtifactEnvelope)
  deriving DecidableEq, Repr

namespace SseEvent

def status (taskId : TaskId) (status : TaskStatus) (final : Bool) : SseEvent :=
  .statusUpdate { taskId, contextId := none, status, final }

def artifact (taskId : TaskId) (artifact : Artifact) (append : Bool) :
    SseEvent :=
  .artifactUpdate { taskId, contextId := none, artifact, append }

end SseEvent

end A2AShim
