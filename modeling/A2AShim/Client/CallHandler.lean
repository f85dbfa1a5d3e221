import A2AShim.Client.Outbound
import A2AShim.Wire.TaskCodec

/-!
# The `a2a_send` call

`drive_stream` folds the events of one outbound stream into a Task, and the
call renders what it ends with.  The heartbeat, which also gets the texts, is
not part of this.
-/

namespace A2AShim

/-! ## Errors -/

inductive ErrorKind where
  | networkError
  | remoteTimeout
  | remoteFailed
  | remoteCanceled
  | protocolError
  deriving DecidableEq, Repr

def ErrorKind.wireName : ErrorKind → String
  | .networkError => "network_error"
  | .remoteTimeout => "remote_timeout"
  | .remoteFailed => "remote_failed"
  | .remoteCanceled => "remote_canceled"
  | .protocolError => "protocol_error"

/-- `limit` is the debug text of a duration. -/
inductive OutboundError where
  | networkError (text : String)
  | remoteFailed (status : Nat) (body : String)
  | remoteTimeout
  | hardCeilingExceeded (limit : String)
  | protocolError (text : String)
  deriving DecidableEq, Repr

def OutboundError.text : OutboundError → String
  | .networkError text => "network error: " ++ text
  | .remoteFailed status body =>
      "remote returned HTTP " ++ toString status ++ ": " ++ body
  | .remoteTimeout => "remote did not send a frame within the idle window"
  | .hardCeilingExceeded limit => "hard ceiling exceeded (" ++ limit ++ ")"
  | .protocolError text => "protocol error: " ++ text

def errorKindForOutbound : OutboundError → ErrorKind
  | .networkError _ => .networkError
  | .remoteFailed _ _ => .remoteFailed
  | .remoteTimeout => .remoteTimeout
  | .hardCeilingExceeded _ => .remoteTimeout
  | .protocolError _ => .protocolError

/-! ## The fold -/

/-- The arguments the fold reads. -/
structure A2aSendArgs where
  conversationId : String
  message : String
  deriving DecidableEq, Repr

inductive DriveOutcome where
  | completed (task : Task)
  | failed (task : Task)
  | canceled (task : Task)
  | inputRequired (task : Task)
  | error (kind : ErrorKind) (message : String) (taskId : Option String)
  deriving DecidableEq, Repr

namespace CallHandler

/-- Append to the parts of the first artifact with the same id, if any. -/
def extendFirst (incoming : Artifact) :
    List Artifact → Option (List Artifact)
  | [] => none
  | existing :: rest =>
      if existing.artifactId = incoming.artifactId then
        some ({ existing with parts := existing.parts ++ incoming.parts } ::
          rest)
      else
        (extendFirst incoming rest).map fun others => existing :: others

/-- Replace the first artifact with the same id, or push. -/
def replaceOrPush (incoming : Artifact) : List Artifact → List Artifact
  | [] => [incoming]
  | existing :: rest =>
      if existing.artifactId = incoming.artifactId then
        incoming :: rest
      else
        existing :: replaceOrPush incoming rest

def upsertArtifact (artifacts : List Artifact) (incoming : Artifact)
    (append : Bool) : List Artifact :=
  if append then
    (extendFirst incoming artifacts).getD (replaceOrPush incoming artifacts)
  else
    replaceOrPush incoming artifacts

def initialTask (args : A2aSendArgs) : Task :=
  { id := ⟨"t-unknown"⟩
    contextId := some args.conversationId
    status := { state := .submitted, message := none, timestamp := none }
    history :=
      [{ role := .user
         parts := [.text args.message]
         metadata :=
          some { conversation := some args.conversationId, extra := [] } }]
    artifacts := []
    metadata := none }

/-- What a final status makes of the call. -/
def outcomeOfFinal (task : Task) : DriveOutcome :=
  match task.status.state with
  | .completed => .completed task
  | .failed => .failed task
  | .canceled => .canceled task
  | .inputRequired => .inputRequired task
  | _ => .failed task

def driveFrom (task : Task) :
    List (Except OutboundError SseEvent) → DriveOutcome
  | [] =>
      .error .protocolError
        "remote stream ended without a terminal status-update"
        (some task.id.text)
  | .error error :: _ =>
      .error (errorKindForOutbound error) error.text (some task.id.text)
  | .ok (.statusUpdate inner) :: rest =>
      let updated := { task with id := inner.taskId, status := inner.status }
      if inner.final then
        outcomeOfFinal updated
      else
        driveFrom updated rest
  | .ok (.artifactUpdate inner) :: rest =>
      driveFrom
        { task with
          id := inner.taskId
          artifacts :=
            upsertArtifact task.artifacts inner.artifact inner.append }
        rest

def driveStream (args : A2aSendArgs)
    (items : List (Except OutboundError SseEvent)) : DriveOutcome :=
  driveFrom (initialTask args) items

/-! ## Rendering -/

open Outbound (object)

def concatenateMessageText : List Part → String
  | [] => ""
  | .text content :: rest => content ++ concatenateMessageText rest
  | _ :: rest => concatenateMessageText rest

def noTextContent : String :=
  "(agent returned no text content)"

def concatenateArtifactText (task : Task) : String :=
  let out :=
    String.join (task.artifacts.map fun artifact =>
      concatenateMessageText artifact.parts)
  if out = "" then noTextContent else out

def textContent (text : String) : Value :=
  .array [object [("type", .string "text"), ("text", .string text)]]

def renderCompleted (task : Task) : Value :=
  object
    [("isError", .bool false),
      ("content", textContent (concatenateArtifactText task)),
      ("_meta", object [("a2aTask", task.toValue)])]

def renderFailed (reason : String) (kind : ErrorKind)
    (remoteTaskId : Option String) : Value :=
  object
    [("isError", .bool true), ("content", textContent reason),
      ("_meta", object
        [("error", object
          [("kind", .string kind.wireName), ("message", .string reason),
            ("remote_task_id",
              (remoteTaskId.map Value.string).getD .null)])])]

def renderInputRequired (task : Task) : Value :=
  object
    [("isError", .bool false),
      ("content", textContent
        ((task.status.message.map fun message =>
          concatenateMessageText message.parts).getD
            "(agent is waiting on input but did not include a prompt)")),
      ("_meta", object
        [("taskId", task.id.toValue), ("state", .string "input-required"),
          ("hint", .string
            ("Call a2a_send again with task_id set to this task to provide " ++
              "the requested input.")),
          ("a2aTask", task.toValue)])]

/-- The result of a call that the host has not canceled. -/
def renderOutcome : DriveOutcome → Value
  | .completed task => renderCompleted task
  | .failed task =>
      renderFailed
        ((task.status.message.map fun message =>
          concatenateMessageText message.parts).getD
            "agent failed without a status message")
        .remoteFailed (some task.id.text)
  | .canceled task =>
      renderFailed "agent reported the task was cancelled" .remoteCanceled
        (some task.id.text)
  | .inputRequired task => renderInputRequired task
  | .error kind message taskId => renderFailed message kind taskId

/-- The text of a tool result: that of its first content item. -/
def resultText (result : Value) : Option String := do
  let items ← (← result.get "content").asItems
  let text ← (← items.head?).get "text"
  text.asStr

theorem resultText_completed (task : Task) :
    resultText (renderCompleted task) =
      some (concatenateArtifactText task) := by
  simp [resultText, renderCompleted, object, Outbound.get_object,
    KeyOrder.insertAll, KeyOrder.member_insert, textContent, Value.asItems,
    Value.asStr]

end CallHandler

end A2AShim
