import A2AShim.Wire.MessageCodec
import A2AShim.Wire.Rpc

/-!
# Encoding Tasks, stream events and responses

The derived instances of the types in `task.rs`, `sse.rs` and `envelope.rs`.
-/

namespace A2AShim

namespace Value

/-- Like `structMembers`, for a struct whose fields from `least` on have a
default: an array may leave them out at its end. -/
def structMembersFrom (least : Nat) (fields : List String) :
    Value → Option Value
  | .object members => some (.object members)
  | .array items =>
      if least ≤ items.length ∧ items.length ≤ fields.length then
        some (.object (fields.zip items))
      else
        none
  | _ => none

@[simp]
theorem structMembersFrom_ofFields
    (least : Nat) (names : List String)
    (fields : List (String × Option Value)) :
    (ofFields fields).structMembersFrom least names = some (ofFields fields) :=
  rfl

/-- `#[serde(default)]`: only a missing member gets the default. -/
def defaulted {α : Type} (decode : Value → Option α) (default : α) :
    Option Value → Option α
  | none => some default
  | some value => decode value

@[simp]
theorem defaulted_some
    {α : Type} (decode : Value → Option α) (default : α) (value : Value) :
    defaulted decode default (some value) = decode value :=
  rfl

def asBool : Value → Option Bool
  | .bool value => some value
  | _ => none

theorem valid_of_defaulted
    {α : Type} (codec : Codec α Value) {default value : α}
    {member : Option Value}
    (decoded : defaulted codec.decode default member = some value)
    (validDefault : codec.Valid default) :
    codec.Valid value := by
  cases member with
  | none =>
      cases decoded
      exact validDefault
  | some source => exact codec.valid_of_decode source value decoded

end Value

namespace TaskId

def ofValue (value : Value) : Option TaskId :=
  value.asStr.map TaskId.mk

def toValue (id : TaskId) : Value :=
  .string id.text

theorem ofValue_toValue (id : TaskId) : ofValue id.toValue = some id :=
  rfl

end TaskId

namespace TaskState

def ofValue (value : Value) : Option TaskState :=
  match value.variantName with
  | some "submitted" => some .submitted
  | some "working" => some .working
  | some "input-required" => some .inputRequired
  | some "completed" => some .completed
  | some "failed" => some .failed
  | some "canceled" => some .canceled
  | _ => none

def toValue : TaskState → Value
  | .submitted => .string "submitted"
  | .working => .string "working"
  | .inputRequired => .string "input-required"
  | .completed => .string "completed"
  | .failed => .string "failed"
  | .canceled => .string "canceled"

theorem ofValue_toValue (state : TaskState) :
    ofValue state.toValue = some state := by
  cases state <;> rfl

end TaskState

namespace TaskStatus

def ofValue (value : Value) : Option TaskStatus := do
  let members ← value.structMembers ["state", "message", "timestamp"]
  let state ← TaskState.ofValue (← members.get "state")
  let message ← Value.optional Message.ofValue (members.get "message")
  let timestamp ← Value.optional Value.asStr (members.get "timestamp")
  return { state, message, timestamp }

def toValue (status : TaskStatus) : Value :=
  .ofFields
    [("state", some status.state.toValue),
      ("message", status.message.map Message.toValue),
      ("timestamp", status.timestamp.map .string)]

def Valid (status : TaskStatus) : Prop :=
  Value.OptionalValid Message.codec status.message

theorem valid_of_ofValue
    {value : Value} {status : TaskStatus}
    (decoded : ofValue value = some status) : status.Valid := by
  simp only [ofValue, Option.bind_eq_bind, Option.bind_eq_some_iff,
    Option.pure_def, Option.some.injEq] at decoded
  obtain ⟨_, _, _, _, _, _, message, isMessage, _, _, rfl⟩ := decoded
  exact Value.optionalValid_of_decode Message.codec isMessage

theorem ofValue_toValue
    {status : TaskStatus} (valid : status.Valid) :
    ofValue status.toValue = some status := by
  have message :
      Value.optional Message.ofValue (status.message.map Message.toValue) =
        some status.message :=
    Value.optional_encode Message.codec valid fun _ isNull => nomatch isNull
  simp [toValue, ofValue, TaskState.ofValue_toValue, message,
    Part.optional_string]

def codec : Codec TaskStatus Value where
  encode := toValue
  decode := ofValue
  Valid := Valid
  valid_of_decode _ _ decoded := valid_of_ofValue decoded
  decode_encode _ valid := ofValue_toValue valid

end TaskStatus

namespace Artifact

def ofValue (value : Value) : Option Artifact := do
  let members ←
    value.structMembers ["artifactId", "name", "parts", "metadata"]
  let artifactId ← Value.optional Value.asStr (members.get "artifactId")
  let name ← Value.optional Value.asStr (members.get "name")
  let parts ← Message.partsOfValue (← members.get "parts")
  let metadata ← Value.optional some (members.get "metadata")
  return { artifactId, name, parts, metadata }

def toValue (artifact : Artifact) : Value :=
  .ofFields
    [("artifactId", artifact.artifactId.map .string),
      ("name", artifact.name.map .string),
      ("parts", some ((Value.arrayOf Part.codec).encode artifact.parts)),
      ("metadata", artifact.metadata)]

def Valid (artifact : Artifact) : Prop :=
  artifact.metadata ≠ some .null

theorem valid_of_ofValue
    {value : Value} {artifact : Artifact}
    (decoded : ofValue value = some artifact) : artifact.Valid := by
  simp only [ofValue, Option.bind_eq_bind, Option.bind_eq_some_iff,
    Option.pure_def, Option.some.injEq] at decoded
  obtain ⟨_, _, _, _, _, _, _, _, _, _, metadata, isMetadata, rfl⟩ := decoded
  exact Value.optional_some_ne_null isMetadata

theorem ofValue_toValue
    {artifact : Artifact} (valid : artifact.Valid) :
    ofValue artifact.toValue = some artifact := by
  have parts :=
    (Value.arrayOf Part.codec).decode_encode artifact.parts
      fun _ _ => trivial
  have metadata := Value.optional_some_self valid
  simp [toValue, ofValue, Message.partsOfValue_eq, parts, metadata,
    Part.optional_string]

def codec : Codec Artifact Value where
  encode := toValue
  decode := ofValue
  Valid := Valid
  valid_of_decode _ _ decoded := valid_of_ofValue decoded
  decode_encode _ valid := ofValue_toValue valid

end Artifact

namespace Task

def ofValue (value : Value) : Option Task := do
  let members ←
    value.structMembers
      ["id", "contextId", "status", "history", "artifacts", "metadata"]
  let id ← TaskId.ofValue (← members.get "id")
  let contextId ← Value.optional Value.asStr (members.get "contextId")
  let status ← TaskStatus.ofValue (← members.get "status")
  let history ←
    Value.defaulted (Value.arrayOf Message.codec).decode []
      (members.get "history")
  let artifacts ←
    Value.defaulted (Value.arrayOf Artifact.codec).decode []
      (members.get "artifacts")
  let metadata ← Value.optional some (members.get "metadata")
  return { id, contextId, status, history, artifacts, metadata }

/-- `skip_serializing_if = "Vec::is_empty"`. -/
def artifactsMember (artifacts : List Artifact) : Option Value :=
  if artifacts.isEmpty then
    none
  else
    some ((Value.arrayOf Artifact.codec).encode artifacts)

def toValue (task : Task) : Value :=
  .ofFields
    [("id", some task.id.toValue),
      ("contextId", task.contextId.map .string),
      ("status", some task.status.toValue),
      ("history", some ((Value.arrayOf Message.codec).encode task.history)),
      ("artifacts", artifactsMember task.artifacts),
      ("metadata", task.metadata)]

structure Valid (task : Task) : Prop where
  status : task.status.Valid
  history : (Value.arrayOf Message.codec).Valid task.history
  artifacts : (Value.arrayOf Artifact.codec).Valid task.artifacts
  metadata : task.metadata ≠ some .null

theorem valid_of_ofValue
    {value : Value} {task : Task}
    (decoded : ofValue value = some task) : task.Valid := by
  simp only [ofValue, Option.bind_eq_bind, Option.bind_eq_some_iff,
    Option.pure_def, Option.some.injEq] at decoded
  obtain ⟨_, _, _, _, _, _, _, _, _, _, status, isStatus, history, isHistory,
    artifacts, areArtifacts, metadata, isMetadata, rfl⟩ := decoded
  exact
    { status := TaskStatus.valid_of_ofValue isStatus
      history :=
        Value.valid_of_defaulted (Value.arrayOf Message.codec) isHistory nofun
      artifacts :=
        Value.valid_of_defaulted (Value.arrayOf Artifact.codec) areArtifacts
          nofun
      metadata := Value.optional_some_ne_null isMetadata }

theorem defaulted_artifacts
    {artifacts : List Artifact}
    (valid : (Value.arrayOf Artifact.codec).Valid artifacts) :
    Value.defaulted (Value.arrayOf Artifact.codec).decode []
        (artifactsMember artifacts) =
      some artifacts := by
  cases artifacts with
  | nil => rfl
  | cons first rest =>
      exact (Value.arrayOf Artifact.codec).decode_encode _ valid

theorem ofValue_toValue
    {task : Task} (valid : task.Valid) :
    ofValue task.toValue = some task := by
  have status := TaskStatus.ofValue_toValue valid.status
  have history :=
    (Value.arrayOf Message.codec).decode_encode task.history valid.history
  have artifacts := defaulted_artifacts valid.artifacts
  have metadata := Value.optional_some_self valid.metadata
  simp [toValue, ofValue, TaskId.ofValue_toValue, status, history, artifacts,
    metadata, Part.optional_string]

def codec : Codec Task Value where
  encode := toValue
  decode := ofValue
  Valid := Valid
  valid_of_decode _ _ decoded := valid_of_ofValue decoded
  decode_encode _ valid := ofValue_toValue valid

end Task

namespace TaskStatusEnvelope

def ofValue (value : Value) : Option TaskStatusEnvelope := do
  let members ←
    value.structMembersFrom 3 ["taskId", "contextId", "status", "final"]
  let taskId ← TaskId.ofValue (← members.get "taskId")
  let contextId ← Value.optional Value.asStr (members.get "contextId")
  let status ← TaskStatus.ofValue (← members.get "status")
  let final ← Value.defaulted Value.asBool false (members.get "final")
  return { taskId, contextId, status, final }

def toValue (inner : TaskStatusEnvelope) : Value :=
  .ofFields
    [("taskId", some inner.taskId.toValue),
      ("contextId", inner.contextId.map .string),
      ("status", some inner.status.toValue),
      ("final", some (.bool inner.final))]

theorem valid_of_ofValue
    {value : Value} {inner : TaskStatusEnvelope}
    (decoded : ofValue value = some inner) : inner.status.Valid := by
  simp only [ofValue, Option.bind_eq_bind, Option.bind_eq_some_iff,
    Option.pure_def, Option.some.injEq] at decoded
  obtain ⟨_, _, _, _, _, _, _, _, _, _, status, isStatus, _, _, rfl⟩ := decoded
  exact TaskStatus.valid_of_ofValue isStatus

theorem ofValue_toValue
    {inner : TaskStatusEnvelope} (valid : inner.status.Valid) :
    ofValue inner.toValue = some inner := by
  have status := TaskStatus.ofValue_toValue valid
  simp [toValue, ofValue, TaskId.ofValue_toValue, status,
    Part.optional_string, Value.asBool]

end TaskStatusEnvelope

namespace TaskArtifactEnvelope

def ofValue (value : Value) : Option TaskArtifactEnvelope := do
  let members ←
    value.structMembersFrom 3 ["taskId", "contextId", "artifact", "append"]
  let taskId ← TaskId.ofValue (← members.get "taskId")
  let contextId ← Value.optional Value.asStr (members.get "contextId")
  let artifact ← Artifact.ofValue (← members.get "artifact")
  let append ← Value.defaulted Value.asBool false (members.get "append")
  return { taskId, contextId, artifact, append }

def toValue (inner : TaskArtifactEnvelope) : Value :=
  .ofFields
    [("taskId", some inner.taskId.toValue),
      ("contextId", inner.contextId.map .string),
      ("artifact", some inner.artifact.toValue),
      ("append", some (.bool inner.append))]

theorem valid_of_ofValue
    {value : Value} {inner : TaskArtifactEnvelope}
    (decoded : ofValue value = some inner) : inner.artifact.Valid := by
  simp only [ofValue, Option.bind_eq_bind, Option.bind_eq_some_iff,
    Option.pure_def, Option.some.injEq] at decoded
  obtain ⟨_, _, _, _, _, _, _, _, _, _, artifact, isArtifact, _, _, rfl⟩ :=
    decoded
  exact Artifact.valid_of_ofValue isArtifact

theorem ofValue_toValue
    {inner : TaskArtifactEnvelope} (valid : inner.artifact.Valid) :
    ofValue inner.toValue = some inner := by
  have artifact := Artifact.ofValue_toValue valid
  simp [toValue, ofValue, TaskId.ofValue_toValue, artifact,
    Part.optional_string, Value.asBool]

end TaskArtifactEnvelope

namespace SseEvent

/-- `#[serde(untagged)]`: an object with the one member of a variant, which is
tried in the order of declaration. -/
def ofValue (value : Value) : Option SseEvent :=
  ((value.get "statusUpdate").bind TaskStatusEnvelope.ofValue).map
      .statusUpdate <|>
    ((value.get "artifactUpdate").bind TaskArtifactEnvelope.ofValue).map
      .artifactUpdate

def toValue : SseEvent → Value
  | .statusUpdate inner => .ofFields [("statusUpdate", some inner.toValue)]
  | .artifactUpdate inner => .ofFields [("artifactUpdate", some inner.toValue)]

def Valid : SseEvent → Prop
  | .statusUpdate inner => inner.status.Valid
  | .artifactUpdate inner => inner.artifact.Valid

theorem valid_of_ofValue
    {value : Value} {event : SseEvent}
    (decoded : ofValue value = some event) : event.Valid := by
  rcases (Option.orElse_eq_some _ _ _).mp decoded with isStatus | ⟨_, isArtifact⟩
  · obtain ⟨inner, isInner, rfl⟩ := Option.map_eq_some_iff.mp isStatus
    obtain ⟨source, _, read⟩ := Option.bind_eq_some_iff.mp isInner
    exact TaskStatusEnvelope.valid_of_ofValue read
  · obtain ⟨inner, isInner, rfl⟩ := Option.map_eq_some_iff.mp isArtifact
    obtain ⟨source, _, read⟩ := Option.bind_eq_some_iff.mp isInner
    exact TaskArtifactEnvelope.valid_of_ofValue read

theorem ofValue_toValue
    {event : SseEvent} (valid : event.Valid) :
    ofValue event.toValue = some event := by
  cases event with
  | statusUpdate inner =>
      have decoded := TaskStatusEnvelope.ofValue_toValue valid
      simp [toValue, ofValue, decoded]
  | artifactUpdate inner =>
      have decoded := TaskArtifactEnvelope.ofValue_toValue valid
      simp [toValue, ofValue, decoded]

def codec : Codec SseEvent Value where
  encode := toValue
  decode := ofValue
  Valid := Valid
  valid_of_decode _ _ decoded := valid_of_ofValue decoded
  decode_encode _ valid := ofValue_toValue valid

end SseEvent

/-! ## Responses -/

inductive ResultOrError where
  | result (result : Value)
  | error (error : JsonRpcError)
  deriving DecidableEq, Repr

/-- `JsonRpcResponse<Value>`. -/
structure JsonRpcResponse where
  jsonrpc : String
  id : Value
  resultOrError : ResultOrError
  deriving DecidableEq, Repr

namespace JsonRpcError

/-- An integer that fits into `i32`. -/
def codeOfValue : Value → Option Int
  | .number (.int code) =>
      if -2 ^ 31 ≤ code ∧ code < 2 ^ 31 then some code else none
  | _ => none

def ofValue (value : Value) : Option JsonRpcError := do
  let members ← value.structMembers ["code", "message", "data"]
  let code ← codeOfValue (← members.get "code")
  let message ← (← members.get "message").asStr
  let data ← Value.optional some (members.get "data")
  return { code, message, data }

def toValue (error : JsonRpcError) : Value :=
  .ofFields
    [("code", some (.number (.int error.code))),
      ("message", some (.string error.message)), ("data", error.data)]

structure Valid (error : JsonRpcError) : Prop where
  code : -2 ^ 31 ≤ error.code ∧ error.code < 2 ^ 31
  data : error.data ≠ some .null

theorem valid_of_ofValue
    {value : Value} {error : JsonRpcError}
    (decoded : ofValue value = some error) : error.Valid := by
  simp only [ofValue, Option.bind_eq_bind, Option.bind_eq_some_iff,
    Option.pure_def, Option.some.injEq] at decoded
  obtain ⟨_, _, _, _, code, isCode, _, _, _, _, data, isData, rfl⟩ := decoded
  refine { code := ?_, data := Value.optional_some_ne_null isData }
  unfold codeOfValue at isCode
  split at isCode
  · split at isCode
    · rename_i inRange
      cases isCode
      exact inRange
    · cases isCode
  · cases isCode

theorem ofValue_toValue
    {error : JsonRpcError} (valid : error.Valid) :
    ofValue error.toValue = some error := by
  have data := Value.optional_some_self valid.data
  have code : codeOfValue (.number (.int error.code)) = some error.code := by
    simp only [codeOfValue, valid.code, and_self, if_true]
  simp [toValue, ofValue, code, data, Value.asStr]

end JsonRpcError

namespace JsonRpcResponse

def resultOrErrorOfValue (value : Value) : Option ResultOrError :=
  (value.get "result").map .result <|>
    ((value.get "error").bind JsonRpcError.ofValue).map .error

/-- `#[serde(flatten)]` reads objects only. -/
def ofValue (value : Value) : Option JsonRpcResponse := do
  let jsonrpc ← (← value.get "jsonrpc").asStr
  let id ← value.get "id"
  let resultOrError ← resultOrErrorOfValue value
  return { jsonrpc, id, resultOrError }

def toValue (response : JsonRpcResponse) : Value :=
  .ofFields
    [("jsonrpc", some (.string response.jsonrpc)), ("id", some response.id),
      match response.resultOrError with
      | .result result => ("result", some result)
      | .error error => ("error", some error.toValue)]

def Valid (response : JsonRpcResponse) : Prop :=
  ∀ error, response.resultOrError = .error error → error.Valid

theorem valid_of_ofValue
    {value : Value} {response : JsonRpcResponse}
    (decoded : ofValue value = some response) : response.Valid := by
  simp only [ofValue, Option.bind_eq_bind, Option.bind_eq_some_iff,
    Option.pure_def, Option.some.injEq] at decoded
  obtain ⟨_, _, _, _, _, _, resultOrError, isOne, rfl⟩ := decoded
  intro error isError
  rcases (Option.orElse_eq_some _ _ _).mp isOne with isResult | ⟨_, isFailure⟩
  · obtain ⟨result, _, rfl⟩ := Option.map_eq_some_iff.mp isResult
    cases isError
  · obtain ⟨failure, isDecoded, rfl⟩ := Option.map_eq_some_iff.mp isFailure
    obtain ⟨source, _, read⟩ := Option.bind_eq_some_iff.mp isDecoded
    cases isError
    exact JsonRpcError.valid_of_ofValue read

theorem ofValue_toValue
    {response : JsonRpcResponse} (valid : response.Valid) :
    ofValue response.toValue = some response := by
  rcases response with ⟨jsonrpc, id, result | error⟩
  · simp [toValue, ofValue, resultOrErrorOfValue, Value.asStr]
  · have decoded := JsonRpcError.ofValue_toValue (valid error rfl)
    simp [toValue, ofValue, resultOrErrorOfValue, Value.asStr, decoded]

def codec : Codec JsonRpcResponse Value where
  encode := toValue
  decode := ofValue
  Valid := Valid
  valid_of_decode _ _ decoded := valid_of_ofValue decoded
  decode_encode _ valid := ofValue_toValue valid

end JsonRpcResponse

end A2AShim
