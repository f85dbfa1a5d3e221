import Mathlib.Algebra.Order.Ring.Nat
import Mathlib.Logic.Function.Basic
import A2AShim.Serve.SseSink

/-!
# The task registry

The hash map of `TaskBinding`s is a function from task identifiers.  Every
method runs under one lock, so it is one function of the registry; the SQL
write some of them make afterwards is a separate step of their callers.  A
method that fails leaves the registry as it was, and therefore returns no new
registry.
-/

namespace A2AShim

inductive TransitionError where
  | notFound
  | notCancelable
  | illegal
  | invalidContinuation
  deriving DecidableEq, Repr

structure TaskBinding where
  conversationId : String
  acpSessionId : String
  state : TaskState
  history : List Message
  artifacts : List Artifact
  sink : SseSink
  deriving DecidableEq, Repr

namespace TaskBinding

def snapshot (binding : TaskBinding) (id : TaskId) : Task :=
  { id
    contextId := some binding.conversationId
    status := { state := binding.state, message := none, timestamp := none }
    history := binding.history
    artifacts := binding.artifacts
    metadata := none }

end TaskBinding

/-- `order` lists the tasks in the order of their creation. -/
structure TaskRegistry where
  bindings : TaskId → Option TaskBinding
  order : List TaskId

namespace TaskRegistry

def sseCapacity : Nat := 256

def empty : TaskRegistry :=
  { bindings := fun _ => none, order := [] }

/-- Overwrite the binding of a task that is in the registry. -/
def put (registry : TaskRegistry) (id : TaskId) (binding : TaskBinding) :
    TaskRegistry :=
  { registry with
    bindings := Function.update registry.bindings id (some binding) }

def freshBinding (conversationId acpSessionId : String) : TaskBinding :=
  { conversationId, acpSessionId
    state := .submitted
    history := []
    artifacts := []
    sink := SseSink.new sseCapacity }

/-- `TaskRegistry::create` for the identifier the random generator returned. -/
def create (registry : TaskRegistry) (id : TaskId)
    (conversationId acpSessionId : String) : TaskRegistry :=
  { bindings :=
      Function.update registry.bindings id
        (some (freshBinding conversationId acpSessionId))
    order := registry.order ++ [id] }

/-- The arrows of `transition`.  Continuations have their own method, and
`canceled` is listed for the bridge only: users cancel through `cancel`. -/
def isLegal : TaskState → TaskState → Bool
  | .submitted, .working => true
  | .working, .completed | .working, .failed | .working, .inputRequired => true
  | .submitted, .canceled | .working, .canceled | .inputRequired, .canceled =>
      true
  | _, _ => false

def transition (registry : TaskRegistry) (id : TaskId) (toState : TaskState) :
    Except TransitionError TaskRegistry :=
  match registry.bindings id with
  | none => .error .notFound
  | some binding =>
      if isLegal binding.state toState then
        .ok (registry.put id { binding with state := toState })
      else
        .error .illegal

def acceptContinuation (registry : TaskRegistry) (id : TaskId) :
    Except TransitionError TaskRegistry :=
  match registry.bindings id with
  | none => .error .notFound
  | some binding =>
      if binding.state ≠ .inputRequired then
        .error .invalidContinuation
      else
        .ok (registry.put id { binding with state := .working })

def cancel (registry : TaskRegistry) (id : TaskId) :
    Except TransitionError TaskRegistry :=
  match registry.bindings id with
  | none => .error .notFound
  | some binding =>
      if binding.state.isTerminal then
        .error .notCancelable
      else
        .ok (registry.put id { binding with state := .canceled })

def snapshot (registry : TaskRegistry) (id : TaskId) : Option Task :=
  (registry.bindings id).map fun binding => binding.snapshot id

def sink (registry : TaskRegistry) (id : TaskId) : Option SseSink :=
  (registry.bindings id).map TaskBinding.sink

/-- Use a sink handle: all clones of the handle share the binding's sink. -/
def onSink (registry : TaskRegistry) (id : TaskId)
    (act : SseSink → SseSink) : TaskRegistry :=
  match registry.bindings id with
  | none => registry
  | some binding => registry.put id { binding with sink := act binding.sink }

/-- Extend the first artifact named `artifactId` with `parts`. -/
def mergeArtifact (artifactId : String) (parts : List Part) :
    List Artifact → Option (Artifact × List Artifact)
  | [] => none
  | existing :: rest =>
      if existing.artifactId = some artifactId then
        let merged := { existing with parts := existing.parts ++ parts }
        some (merged, merged :: rest)
      else
        (mergeArtifact artifactId parts rest).map fun result =>
          (result.1, existing :: result.2)

def upsertInto (artifacts : List Artifact) (artifact : Artifact) :
    Artifact × List Artifact :=
  let merged :=
    artifact.artifactId.bind fun artifactId =>
      mergeArtifact artifactId artifact.parts artifacts
  merged.getD (artifact, artifacts ++ [artifact])

def upsertArtifact (registry : TaskRegistry) (id : TaskId)
    (artifact : Artifact) : Except TransitionError (Artifact × TaskRegistry) :=
  match registry.bindings id with
  | none => .error .notFound
  | some binding =>
      let result := upsertInto binding.artifacts artifact
      .ok (result.1, registry.put id { binding with artifacts := result.2 })

/-- `TaskRegistry::list`: a page of snapshots in creation order, and the
cursor of the next page. -/
def list (registry : TaskRegistry) (after : Option TaskId) (limit : Nat) :
    List Task × Option TaskId :=
  let effectiveLimit := if limit = 0 then 50 else min limit 1000
  let page (start : Nat) :=
    let stop := min (start + effectiveLimit) registry.order.length
    let tasks :=
      ((registry.order.take stop).drop start).filterMap registry.snapshot
    let nextCursor :=
      if stop < registry.order.length then
        tasks.getLast?.map Task.id
      else
        none
    (tasks, nextCursor)
  match after with
  | none => page 0
  | some cursor =>
      match registry.order.findIdx? (· = cursor) with
      | some position => page (position + 1)
      | none => ([], none)

def stateStr : TaskState → String
  | .submitted => "submitted"
  | .working => "working"
  | .inputRequired => "input-required"
  | .completed => "completed"
  | .failed => "failed"
  | .canceled => "canceled"

/-- The conversation that the row of a Task is written with. -/
def conversationOf (registry : TaskRegistry) (id : TaskId) : String :=
  ((registry.bindings id).map TaskBinding.conversationId).getD ""

/-! ## What each method can do -/

@[simp]
theorem put_self
    (registry : TaskRegistry) (id : TaskId) (binding : TaskBinding) :
    (registry.put id binding).bindings id = some binding := by
  simp [put]

theorem put_other
    {registry : TaskRegistry} {id tested : TaskId} {binding : TaskBinding}
    (different : tested ≠ id) :
    (registry.put id binding).bindings tested = registry.bindings tested := by
  simp [put, different]

@[simp]
theorem put_put
    (registry : TaskRegistry) (id : TaskId) (first second : TaskBinding) :
    (registry.put id first).put id second = registry.put id second := by
  simp [put]

/-- Overwriting a binding with itself changes nothing. -/
theorem put_same
    {registry : TaskRegistry} {id : TaskId} {binding : TaskBinding}
    (found : registry.bindings id = some binding) :
    registry.put id binding = registry := by
  cases registry
  simp only [put, mk.injEq, and_true]
  exact Function.update_eq_self_iff.mpr found.symm

@[simp]
theorem put_order
    (registry : TaskRegistry) (id : TaskId) (binding : TaskBinding) :
    (registry.put id binding).order = registry.order :=
  rfl

@[simp]
theorem create_self
    (registry : TaskRegistry) (id : TaskId) (conversation session : String) :
    (registry.create id conversation session).bindings id =
      some (freshBinding conversation session) := by
  simp [create]

theorem create_other
    {registry : TaskRegistry} {id tested : TaskId}
    {conversation session : String} (different : tested ≠ id) :
    (registry.create id conversation session).bindings tested =
      registry.bindings tested := by
  simp [create, different]

theorem transition_ok_iff
    {registry updated : TaskRegistry} {id : TaskId} {toState : TaskState} :
    registry.transition id toState = .ok updated ↔
      ∃ binding,
        registry.bindings id = some binding ∧
          isLegal binding.state toState = true ∧
            updated = registry.put id { binding with state := toState } := by
  unfold transition
  cases found : registry.bindings id with
  | none => simp
  | some binding =>
      by_cases legal : isLegal binding.state toState = true
      · simp only [legal, if_true, Except.ok.injEq, Option.some.injEq,
          exists_eq_left', true_and]
        exact eq_comm
      · simp [legal]

theorem illegal_of_transition
    {registry : TaskRegistry} {id : TaskId} {binding : TaskBinding}
    {toState : TaskState} {error : TransitionError}
    (refused : registry.transition id toState = .error error)
    (found : registry.bindings id = some binding) :
    isLegal binding.state toState = false := by
  by_contra legal
  have accepted :
      registry.transition id toState =
        .ok (registry.put id { binding with state := toState }) :=
    transition_ok_iff.mpr ⟨binding, found, by simpa using legal, rfl⟩
  rw [refused] at accepted
  cases accepted

theorem acceptContinuation_ok_iff
    {registry updated : TaskRegistry} {id : TaskId} :
    registry.acceptContinuation id = .ok updated ↔
      ∃ binding,
        registry.bindings id = some binding ∧
          binding.state = .inputRequired ∧
            updated = registry.put id { binding with state := .working } := by
  unfold acceptContinuation
  cases found : registry.bindings id with
  | none => simp
  | some binding =>
      by_cases waiting : binding.state = .inputRequired
      · simp only [waiting, ne_eq, not_true_eq_false, if_false,
          Except.ok.injEq, Option.some.injEq, exists_eq_left', true_and]
        exact eq_comm
      · simp [waiting]

theorem cancel_ok_iff
    {registry updated : TaskRegistry} {id : TaskId} :
    registry.cancel id = .ok updated ↔
      ∃ binding,
        registry.bindings id = some binding ∧
          binding.state.isTerminal = false ∧
            updated = registry.put id { binding with state := .canceled } := by
  unfold cancel
  cases found : registry.bindings id with
  | none => simp
  | some binding =>
      by_cases finished : binding.state.isTerminal = true
      · simp [finished]
      · simp only [finished, Bool.false_eq_true, if_false, Except.ok.injEq,
          Option.some.injEq, exists_eq_left', true_and]
        exact eq_comm

theorem upsertArtifact_ok_iff
    {registry : TaskRegistry} {id : TaskId} {artifact : Artifact}
    {result : Artifact × TaskRegistry} :
    registry.upsertArtifact id artifact = .ok result ↔
      ∃ binding,
        registry.bindings id = some binding ∧
          result =
            ((upsertInto binding.artifacts artifact).1,
              registry.put id
                { binding with
                  artifacts :=
                    (upsertInto binding.artifacts artifact).2 }) := by
  unfold upsertArtifact
  cases found : registry.bindings id with
  | none => simp
  | some binding =>
      simp only [Except.ok.injEq, Option.some.injEq, exists_eq_left']
      exact eq_comm

theorem absent_of_upsertArtifact
    {registry : TaskRegistry} {id : TaskId} {artifact : Artifact}
    {error : TransitionError}
    (refused : registry.upsertArtifact id artifact = .error error) :
    registry.bindings id = none := by
  cases found : registry.bindings id with
  | none => rfl
  | some binding => simp [upsertArtifact, found] at refused

theorem onSink_of_some
    {registry : TaskRegistry} {id : TaskId} {binding : TaskBinding}
    (found : registry.bindings id = some binding) (act : SseSink → SseSink) :
    registry.onSink id act =
      registry.put id { binding with sink := act binding.sink } := by
  simp [onSink, found]

theorem onSink_self
    {registry : TaskRegistry} {id : TaskId} {binding : TaskBinding}
    (found : registry.bindings id = some binding) (act : SseSink → SseSink) :
    (registry.onSink id act).bindings id =
      some { binding with sink := act binding.sink } := by
  rw [onSink_of_some found act, put_self]

theorem onSink_other
    {registry : TaskRegistry} {id tested : TaskId}
    (different : tested ≠ id) (act : SseSink → SseSink) :
    (registry.onSink id act).bindings tested = registry.bindings tested := by
  cases found : registry.bindings id with
  | none => simp [onSink, found]
  | some binding => rw [onSink_of_some found act, put_other different]

/-- No legal transition leaves a terminal state. -/
theorem isLegal_from_terminal
    {source : TaskState} (terminal : source.isTerminal = true)
    (target : TaskState) :
    isLegal source target = false := by
  cases source <;> cases target <;> simp_all [TaskState.isTerminal, isLegal]

theorem isLegal_to_working_iff (source : TaskState) :
    isLegal source .working = true ↔ source = .submitted := by
  cases source <;> simp [isLegal]

end TaskRegistry

end A2AShim
