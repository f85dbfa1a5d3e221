import Mathlib.Data.List.Chain
import A2AShim.Lib.Machine
import A2AShim.Serve.TaskRegistry

/-!
# The states a Task goes through

The four calls that change the state of a Task, in any order and with any
arguments.  Each call does its work under one lock, so calls that overlap in
time act one after the other.
-/

namespace A2AShim

namespace TaskRegistry

inductive Call where
  | create (id : TaskId) (conversationId acpSessionId : String)
  | transition (id : TaskId) (toState : TaskState)
  | acceptContinuation (id : TaskId)
  | cancel (id : TaskId)
  deriving DecidableEq, Repr

namespace Call

def outcome (registry : TaskRegistry) :
    Call → Except TransitionError TaskRegistry
  | .create id conversationId acpSessionId =>
      .ok (registry.create id conversationId acpSessionId)
  | .transition id toState => registry.transition id toState
  | .acceptContinuation id => registry.acceptContinuation id
  | .cancel id => registry.cancel id

/-- What the caller gets, and the registry the call leaves behind. -/
def run (call : Call) (registry : TaskRegistry) :
    Except TransitionError Unit × TaskRegistry :=
  match call.outcome registry with
  | .ok updated => (.ok (), updated)
  | .error error => (.error error, registry)

/-- One call as a step. -/
def step (call : Call) (registry : TaskRegistry) : Option TaskRegistry :=
  some (call.run registry).2

/-- The random generator returns no identifier that is in use. -/
def FreshId (registry : TaskRegistry) (call : Call) : Prop :=
  ∀ id conversationId acpSessionId,
    call = .create id conversationId acpSessionId →
      registry.bindings id = none

end Call

def stateOf (registry : TaskRegistry) (id : TaskId) : Option TaskState :=
  (registry.bindings id).map TaskBinding.state

/-- The states a Task goes through, each listed when it is entered. -/
def journey (id : TaskId) : List Call → TaskRegistry → List TaskState
  | [], _ => []
  | call :: rest, registry =>
      let next := (call.run registry).2
      if next.stateOf id = registry.stateOf id then
        journey id rest next
      else
        (next.stateOf id).toList ++ journey id rest next

/-- The documented graph. -/
inductive Arrow : TaskState → TaskState → Prop
  | begin : Arrow .submitted .working
  | complete : Arrow .working .completed
  | fail : Arrow .working .failed
  | ask : Arrow .working .inputRequired
  | resume : Arrow .inputRequired .working
  | cancel {source : TaskState} :
      source.isTerminal = false → Arrow source .canceled

theorem Arrow.source_not_terminal
    {source target : TaskState} (arrow : Arrow source target) :
    source.isTerminal = false := by
  cases arrow with
  | cancel active => exact active
  | _ => rfl

/-- Every legal transition is an arrow other than `resume`. -/
theorem arrow_of_isLegal
    {source target : TaskState} (legal : isLegal source target = true) :
    Arrow source target ∧ ¬ (source = .inputRequired ∧ target = .working) := by
  cases source <;> cases target <;> simp [isLegal] at legal
  all_goals refine ⟨?_, by simp⟩
  all_goals first
    | exact .begin
    | exact .complete
    | exact .fail
    | exact .ask
    | exact .cancel rfl

/-! ## What one call does to one Task -/

/-- How a call can change the state of the Task `id`. -/
inductive Moves (id : TaskId) (call : Call) :
    Option TaskState → Option TaskState → Prop
  | stays {state : Option TaskState} : Moves id call state state
  | created {conversationId acpSessionId : String} :
      call = .create id conversationId acpSessionId →
      Moves id call none (some .submitted)
  | along {source target : TaskState} :
      Arrow source target →
      (source = .inputRequired ∧ target = .working →
        call = .acceptContinuation id) →
      Moves id call (some source) (some target)

theorem stateOf_put_self
    (registry : TaskRegistry) (id : TaskId) (binding : TaskBinding) :
    (registry.put id binding).stateOf id = some binding.state := by
  simp [stateOf]

theorem stateOf_put_other
    {registry : TaskRegistry} {id tested : TaskId} {binding : TaskBinding}
    (different : tested ≠ id) :
    (registry.put id binding).stateOf tested = registry.stateOf tested := by
  simp [stateOf, put_other different]

/-- A call that overwrites the state of one Task along an arrow. -/
theorem moves_of_put
    {registry : TaskRegistry} {call : Call} {target tested : TaskId}
    {binding : TaskBinding} {state : TaskState}
    (found : registry.bindings target = some binding)
    (arrow : Arrow binding.state state)
    (resumes : binding.state = .inputRequired ∧ state = .working →
      call = .acceptContinuation target) :
    Moves tested call (registry.stateOf tested)
      ((registry.put target { binding with state }).stateOf tested) := by
  by_cases same : tested = target
  · subst same
    have before : registry.stateOf tested = some binding.state := by
      simp [stateOf, found]
    rw [before, stateOf_put_self]
    exact .along arrow resumes
  · rw [stateOf_put_other same]
    exact .stays

theorem run_moves
    {registry : TaskRegistry} {call : Call} (fresh : call.FreshId registry)
    (id : TaskId) :
    Moves id call (registry.stateOf id)
      ((call.run registry).2.stateOf id) := by
  cases call with
  | create created conversationId acpSessionId =>
      have unknown := fresh created conversationId acpSessionId rfl
      by_cases same : id = created
      · subst same
        have before : registry.stateOf id = none := by simp [stateOf, unknown]
        have after :
            (registry.create id conversationId acpSessionId).stateOf id =
              some .submitted := by
          simp [stateOf, freshBinding]
        rw [before]
        simp only [Call.run, Call.outcome]
        rw [after]
        exact .created rfl
      · simp only [Call.run, Call.outcome, stateOf, create_other same]
        exact .stays
  | transition target toState =>
      cases outcome : registry.transition target toState with
      | error error =>
          simp only [Call.run, Call.outcome, outcome]
          exact .stays
      | ok updated =>
          obtain ⟨binding, found, legal, rfl⟩ := transition_ok_iff.mp outcome
          have allowed := arrow_of_isLegal legal
          simp only [Call.run, Call.outcome, outcome]
          exact moves_of_put found allowed.1
            fun resumes => absurd resumes allowed.2
  | acceptContinuation target =>
      cases outcome : registry.acceptContinuation target with
      | error error =>
          simp only [Call.run, Call.outcome, outcome]
          exact .stays
      | ok updated =>
          obtain ⟨binding, found, waiting, rfl⟩ :=
            acceptContinuation_ok_iff.mp outcome
          have arrow : Arrow binding.state .working := by
            rw [waiting]
            exact .resume
          simp only [Call.run, Call.outcome, outcome]
          exact moves_of_put found arrow fun _ => rfl
  | cancel target =>
      cases outcome : registry.cancel target with
      | error error =>
          simp only [Call.run, Call.outcome, outcome]
          exact .stays
      | ok updated =>
          obtain ⟨binding, found, active, rfl⟩ := cancel_ok_iff.mp outcome
          simp only [Call.run, Call.outcome, outcome]
          apply moves_of_put found (.cancel active)
          intro resumes
          simp at resumes

/-! ## Whole runs -/

section Runs

variable {calls : List Call} {registry : TaskRegistry}

theorem journey_append
    (id : TaskId) (first second : List Call) (registry middle : TaskRegistry)
    (executed : Machine.exec Call.step first registry = some middle) :
    journey id (first ++ second) registry =
      journey id first registry ++ journey id second middle := by
  induction first generalizing registry with
  | nil =>
      cases executed
      rfl
  | cons call rest inductionHypothesis =>
      have remaining :
          Machine.exec Call.step rest (call.run registry).2 = some middle :=
        executed
      have others := inductionHypothesis _ remaining
      simp only [List.cons_append, journey]
      split
      · exact others
      · rw [others, List.append_assoc]

/-- The journey is a path of the graph from `submitted`, and ends where the
Task stands. -/
def OnPath (registry : TaskRegistry) (id : TaskId) (path : List TaskState) :
    Prop :=
  path.IsChain Arrow ∧ path.getLast? = registry.stateOf id ∧
    ∀ first, path.head? = some first → first = .submitted

theorem OnPath.extend
    {source target : TaskRegistry} {id : TaskId} {call : Call}
    {path : List TaskState}
    (onPath : OnPath source id path)
    (moves : Moves id call (source.stateOf id) (target.stateOf id)) :
    OnPath target id
      (path ++
        if target.stateOf id = source.stateOf id then []
        else (target.stateOf id).toList) := by
  obtain ⟨chain, last, start⟩ := onPath
  generalize before : source.stateOf id = old at moves last ⊢
  generalize after : target.stateOf id = new at moves ⊢
  cases moves with
  | stays =>
      simp only [if_true, List.append_nil]
      exact ⟨chain, by rw [last, after], start⟩
  | created =>
      have empty : path = [] := List.getLast?_eq_none_iff.mp last
      subst empty
      refine ⟨by simp, by simp [after], ?_⟩
      intro first isFirst
      simpa using isFirst.symm
  | @along old new arrow _ =>
      have different : new ≠ old := by
        intro same
        subst same
        cases arrow with
        | cancel active => cases active
      have nonempty : path ≠ [] := by
        intro empty
        simp [empty] at last
      simp only [Option.some.injEq, different, if_false, Option.toList]
      refine ⟨?_, by simp [after], ?_⟩
      · rw [List.isChain_append]
        refine ⟨chain, by simp, ?_⟩
        intro reached isLast next isNext
        rw [last] at isLast
        cases isLast
        cases isNext
        exact arrow
      · intro first isFirst
        rw [List.head?_append_of_ne_nil _ nonempty] at isFirst
        exact start first isFirst

theorem onPath_of_run
    (run : Machine.Run Call.step
      (fun registry call => call.FreshId registry) .empty calls registry)
    (id : TaskId) :
    OnPath registry id (journey id calls .empty) := by
  induction run with
  | start => exact ⟨by simp [journey], rfl, by simp [journey]⟩
  | @snoc trace source target call before fresh taken inductionHypothesis =>
      cases taken
      rw [journey_append id trace [call] .empty source before.exec_eq]
      have extended := inductionHypothesis.extend (run_moves fresh id)
      simpa [journey] using extended

/-- A terminal state is kept by every further call. -/
theorem terminal_absorbs
    {later : TaskRegistry} {more : List Call} {id : TaskId}
    {state : TaskState}
    (terminal : state.isTerminal = true)
    (reached : registry.stateOf id = some state)
    (run : Machine.Run Call.step
      (fun registry call => call.FreshId registry) registry more later) :
    later.stateOf id = some state := by
  refine run.invariant (fun current => current.stateOf id = some state)
    reached ?_
  intro source call target before fresh taken
  cases taken
  have moves := run_moves fresh id
  rw [before] at moves
  generalize (call.run source).2.stateOf id = new at moves ⊢
  cases moves with
  | stays => rfl
  | along arrow _ =>
      have active := arrow.source_not_terminal
      rw [terminal] at active
      cases active

/-- `cancel` succeeds on the Tasks that exist and have not ended. -/
theorem cancel_accepts_iff (registry : TaskRegistry) (id : TaskId) :
    ((Call.cancel id).run registry).1 = .ok () ↔
      ∃ state, registry.stateOf id = some state ∧ state.isTerminal = false := by
  constructor
  · intro accepted
    cases outcome : registry.cancel id with
    | error error => simp [Call.run, Call.outcome, outcome] at accepted
    | ok updated =>
        obtain ⟨binding, found, active, _⟩ := cancel_ok_iff.mp outcome
        exact ⟨binding.state, by simp [stateOf, found], active⟩
  · intro active
    rcases active with ⟨state, reached, notTerminal⟩
    obtain ⟨binding, found, rfl⟩ := Option.map_eq_some_iff.mp reached
    have accepted := cancel_ok_iff.mpr ⟨binding, found, notTerminal, rfl⟩
    simp [Call.run, Call.outcome, accepted]

theorem run_error
    {registry : TaskRegistry} {call : Call} {error : TransitionError}
    (refused : (call.run registry).1 = .error error) :
    (call.run registry).2 = registry := by
  cases outcome : call.outcome registry with
  | error _ => simp [Call.run, outcome]
  | ok updated => simp [Call.run, outcome] at refused

/-- After any calls, every Task has walked the graph from `submitted`; the
next call moves along an arrow or not at all, a finished Task stays as it is,
`cancel` succeeds on unfinished Tasks only, and a refused call changes no
state. -/
theorem task_states_follow_graph
    {calls : List Call} {registry : TaskRegistry}
    (run : Machine.Run Call.step
      (fun registry call => call.FreshId registry) .empty calls registry) :
    (∀ id, OnPath registry id (journey id calls .empty)) ∧
      (∀ call id, call.FreshId registry →
        Moves id call (registry.stateOf id)
          ((call.run registry).2.stateOf id)) ∧
      (∀ id state more later,
        state.isTerminal = true → registry.stateOf id = some state →
          Machine.Run Call.step
            (fun registry call => call.FreshId registry) registry more later →
          later.stateOf id = some state) ∧
      (∀ id,
        ((Call.cancel id).run registry).1 = .ok () ↔
          ∃ state,
            registry.stateOf id = some state ∧ state.isTerminal = false) ∧
      ∀ (call : Call) (error : TransitionError) (id : TaskId),
        (call.run registry).1 = .error error →
          (call.run registry).2.stateOf id = registry.stateOf id := by
  refine ⟨onPath_of_run run, ?_, ?_, cancel_accepts_iff registry, ?_⟩
  · intro call id fresh
    exact run_moves fresh id
  · intro id state more later terminal reached further
    exact terminal_absorbs terminal reached further
  · intro call error id refused
    rw [run_error refused]

/-- A Task that waits for input, is continued, and completes. -/
def continuedCalls : List Call :=
  [.create ⟨"t"⟩ "c" "s", .transition ⟨"t"⟩ .working,
    .transition ⟨"t"⟩ .inputRequired, .acceptContinuation ⟨"t"⟩,
    .transition ⟨"t"⟩ .completed]

theorem continued_task_on_path :
    ∃ registry,
      Machine.exec Call.step continuedCalls .empty = some registry ∧
        OnPath registry ⟨"t"⟩ (journey ⟨"t"⟩ continuedCalls .empty) := by
  obtain ⟨registry, executed⟩ :
      ∃ registry,
        Machine.exec Call.step continuedCalls .empty = some registry :=
    ⟨_, rfl⟩
  refine ⟨registry, executed, ?_⟩
  have created :
      Machine.Run Call.step (fun registry call => call.FreshId registry)
        .empty ([] ++ [.create ⟨"t"⟩ "c" "s"]) (empty.create ⟨"t"⟩ "c" "s") :=
    .snoc .start (fun _ _ _ _ => rfl) rfl
  have others :
      Machine.Run Call.step (fun registry call => call.FreshId registry)
        (empty.create ⟨"t"⟩ "c" "s") continuedCalls.tail registry := by
    apply Machine.run_of_exec_of_always
    · intro call member reached id conversationId acpSessionId isCreate
      subst isCreate
      simp [continuedCalls] at member
    · exact executed
  exact (task_states_follow_graph (created.append others)).1 ⟨"t"⟩

end Runs

end TaskRegistry

end A2AShim
