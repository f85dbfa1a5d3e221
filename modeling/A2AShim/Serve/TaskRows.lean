import A2AShim.Lib.LastWrite
import A2AShim.Lib.Pool
import A2AShim.Serve.Persistence
import A2AShim.Serve.TaskGraph

/-!
# The tasks table

The calls that change the state of a Task, each cut between its work on the
registry, which happens under the lock, and the statement that writes the
state through.
-/

namespace A2AShim

namespace TaskRegistry

namespace Call

/-- The Task a call is about. -/
def taskId : Call → TaskId
  | .create id _ _ | .transition id _ | .acceptContinuation id | .cancel id =>
      id

/-- The state a call puts its Task in. -/
def target : Call → TaskState
  | .create _ _ _ => .submitted
  | .transition _ toState => toState
  | .acceptContinuation _ => .working
  | .cancel _ => .canceled

end Call

/-- A call that succeeds leaves its Task in the state it asks for. -/
theorem stateOf_outcome_self
    {call : Call} {registry updated : TaskRegistry}
    (done : call.outcome registry = .ok updated) :
    updated.stateOf call.taskId = some call.target := by
  cases call with
  | create id conversation session =>
      cases done
      simp [stateOf, Call.taskId, Call.target, freshBinding]
  | transition id toState =>
      obtain ⟨binding, _, _, rfl⟩ := transition_ok_iff.mp done
      exact stateOf_put_self _ _ _
  | acceptContinuation id =>
      obtain ⟨binding, _, _, rfl⟩ := acceptContinuation_ok_iff.mp done
      exact stateOf_put_self _ _ _
  | cancel id =>
      obtain ⟨binding, _, _, rfl⟩ := cancel_ok_iff.mp done
      exact stateOf_put_self _ _ _

theorem stateOf_outcome_other
    {call : Call} {registry updated : TaskRegistry} {id : TaskId}
    (done : call.outcome registry = .ok updated)
    (different : id ≠ call.taskId) :
    updated.stateOf id = registry.stateOf id := by
  cases call with
  | create created conversation session =>
      cases done
      exact congrArg (Option.map TaskBinding.state) (create_other different)
  | transition moved toState =>
      obtain ⟨binding, _, _, rfl⟩ := transition_ok_iff.mp done
      exact stateOf_put_other different
  | acceptContinuation continued =>
      obtain ⟨binding, _, _, rfl⟩ := acceptContinuation_ok_iff.mp done
      exact stateOf_put_other different
  | cancel canceled =>
      obtain ⟨binding, _, _, rfl⟩ := cancel_ok_iff.mp done
      exact stateOf_put_other different

/-- The statement's test for a terminal state is the registry's. -/
theorem isTerminal_iff_stateStr (state : TaskState) :
    state.isTerminal = true ↔
      stateStr state = "completed" ∨ stateStr state = "failed" ∨
        stateStr state = "canceled" := by
  cases state <;> decide

/-- States are told apart by their strings. -/
theorem stateStr_injective : Function.Injective stateStr := by
  intro first second same
  cases first <;> cases second <;> simp [stateStr] at same ⊢

end TaskRegistry

namespace Rows

/-- What the rows of a Task say of it: its state, and whether it has ended. -/
def statesOf (rows : Rows) (taskId : String) : List (String × Bool) :=
  (rows.tasks.filter fun row => row.taskId == taskId).map fun row =>
    (row.state, row.terminalAt.isSome)

variable {rows written : Rows} {taskId conversationId : String}

/-- Rewriting the rows of one Task, in the table of another. -/
theorem filter_rewrite
    (tested : String) (change : TaskRow → TaskRow)
    (sameId : ∀ row, (change row).taskId = row.taskId)
    (tasks : List TaskRow) :
    (tasks.map change).filter (fun row => row.taskId == tested) =
      (tasks.filter fun row => row.taskId == tested).map change := by
  rw [List.filter_map]
  congr 1
  apply List.filter_congr
  intro row _
  simp [sameId row]

/-- The statement leaves the Task with one row that has the new state. -/
theorem statesOf_recordTask_self
    {state : String} {now : Nat} (single : (rows.statesOf taskId).length ≤ 1)
    (done :
      rows.recordTask taskId conversationId state now = some written) :
    written.statesOf taskId =
      [(state,
        decide (state = "completed" ∨ state = "failed" ∨
          state = "canceled"))] := by
  obtain ⟨terminalAt, ended, ⟨⟨known, inTable, isKnown⟩, rfl⟩ |
    ⟨unknown, _, rfl⟩⟩ := recordTask_cases done
  · obtain ⟨row, only⟩ : ∃ row,
        (rows.tasks.filter fun row => row.taskId == taskId) = [row] := by
      rw [← List.length_eq_one_iff]
      have nonempty :
          0 < (rows.tasks.filter fun row => row.taskId == taskId).length := by
        rw [List.length_pos_iff_exists_mem]
        exact ⟨known, List.mem_filter.mpr ⟨inTable, beq_iff_eq.mpr isKnown⟩⟩
      simp only [statesOf, List.length_map] at single
      omega
    have isTask : row.taskId = taskId := by
      have member :
          row ∈ rows.tasks.filter fun row => row.taskId == taskId := by
        rw [only]
        exact List.mem_singleton_self row
      exact beq_iff_eq.mp (List.mem_filter.mp member).2
    rw [statesOf, filter_rewrite, only]
    · simp [isTask, ended]
    · intro other
      split <;> rfl
  · have absent :
        (rows.tasks.filter fun row => row.taskId == taskId) = [] := by
      rw [List.filter_eq_nil_iff]
      simpa using unknown
    simp [statesOf, List.filter_append, absent, ended]

theorem statesOf_recordTask_other
    {state other : String} {now : Nat} (different : other ≠ taskId)
    (done :
      rows.recordTask taskId conversationId state now = some written) :
    written.statesOf other = rows.statesOf other := by
  obtain ⟨terminalAt, _, ⟨_, rfl⟩ | ⟨_, _, rfl⟩⟩ := recordTask_cases done
  · rw [statesOf, filter_rewrite, List.map_map, statesOf]
    · apply List.map_congr_left
      intro row member
      have isOther := beq_iff_eq.mp (List.mem_filter.mp member).2
      simp [isOther, different]
    · intro row
      split <;> rfl
  · simp [statesOf, List.filter_append, different.symm]

end Rows

namespace TaskRows

open TaskRegistry (Call)

inductive Pc where
  | record (conversationId : String)
  | returned (result : Except TransitionError Unit)
  deriving DecidableEq

structure Caller where
  call : Call
  pc : Pc
  deriving DecidableEq

structure Calls where
  registry : TaskRegistry
  rows : Rows
  threads : Pool Nat Caller

namespace Calls

def put (calls : Calls) (name : Nat) (caller : Caller) : Calls :=
  { calls with threads := calls.threads.put name caller }

end Calls

/-- The part of a call that runs under the registry's lock.
`accept_continuation` writes nothing through. -/
def start (calls : Calls) (name : Nat) (call : Call) : Option Calls :=
  match calls.threads name with
  | some _ => none
  | none =>
      match call.outcome calls.registry with
      | .error error => some (calls.put name ⟨call, .returned (.error error)⟩)
      | .ok updated =>
          let pc : Pc :=
            match call with
            | .acceptContinuation _ => .returned (.ok ())
            | _ => .record (updated.conversationOf call.taskId)
          some (Calls.put { calls with registry := updated } name ⟨call, pc⟩)

/-- `record_task`; a statement that fails is logged only. -/
def record (calls : Calls) (name now : Nat) : Option Calls :=
  match calls.threads name with
  | some ⟨call, .record conversationId⟩ =>
      let written :=
        calls.rows.recordTask call.taskId.text conversationId
          (TaskRegistry.stateStr call.target) now
      some (Calls.put { calls with rows := written.getD calls.rows } name
        ⟨call, .returned (.ok ())⟩)
  | _ => none

inductive Action where
  | start (name : Nat) (call : Call)
  | record (name now : Nat)
  deriving DecidableEq, Repr

def step : Action → Calls → Option Calls
  | .start name call, calls => start calls name call
  | .record name now, calls => record calls name now

/-- The statement of every call succeeds. -/
def Succeeds (calls : Calls) : Action → Prop
  | .start _ _ => True
  | .record name now =>
      ∀ call conversationId,
        calls.threads name = some ⟨call, .record conversationId⟩ →
          (calls.rows.recordTask call.taskId.text conversationId
            (TaskRegistry.stateStr call.target) now).isSome = true

/-- All calls that were started have finished. -/
def Quiescent (calls : Calls) : Prop :=
  ∀ name caller, calls.threads name = some caller →
    ∃ result, caller.pc = .returned result

/-- The Task has one row, with its state and with a time iff the state is
terminal; a Task that is not in the registry has none. -/
def Mirrors (id : TaskId) (calls : Calls) : Prop :=
  calls.rows.statesOf id.text =
    ((calls.registry.stateOf id).map fun state =>
      (TaskRegistry.stateStr state, state.isTerminal)).toList

/-- A call, and what it was to do. -/
structure Write where
  name : Nat
  call : Call
  deriving DecidableEq, Repr

/-- The change of the Task's state in the registry. -/
def memoryWrite (id : TaskId) (calls : Calls) : Action → Option Write
  | .start name call =>
      match call.outcome calls.registry with
      | .ok _ => if call.taskId = id then some ⟨name, call⟩ else none
      | .error _ => none
  | .record _ _ => none

/-- The statement on the Task's row. -/
def rowWrite (id : TaskId) (calls : Calls) : Action → Option Write
  | .start _ _ => none
  | .record name _ =>
      match calls.threads name with
      | some ⟨call, .record _⟩ =>
          if call.taskId = id then some ⟨name, call⟩ else none
      | _ => none

/-- The call that changed the Task last is the call whose statement ran last,
or the two, or what the Task was before, ask for one state. -/
def SameOrigin (id : TaskId) (init : Calls) (trace : List Action) : Prop :=
  match Machine.lastWrite step (memoryWrite id) trace init,
    Machine.lastWrite step (rowWrite id) trace init with
  | some changed, some recorded =>
      changed.name = recorded.name ∨ changed.call.target = recorded.call.target
  | some write, none | none, some write =>
      init.registry.stateOf id = some write.call.target
  | none, none => True

/-! ## What one step does -/

variable {init calls target : Calls} {id : TaskId}

/-- What the table holds of a Task that is in `state`. -/
def recorded (state : TaskState) : String × Bool :=
  (TaskRegistry.stateStr state, state.isTerminal)

theorem recorded_eq (state : TaskState) :
    recorded state =
      (TaskRegistry.stateStr state,
        decide (TaskRegistry.stateStr state = "completed" ∨
          TaskRegistry.stateStr state = "failed" ∨
            TaskRegistry.stateStr state = "canceled")) := by
  simp only [recorded, ← TaskRegistry.isTerminal_iff_stateStr,
    Bool.decide_eq_true]

theorem recorded_injective : Function.Injective recorded := by
  intro first second same
  exact TaskRegistry.stateStr_injective (congrArg Prod.fst same)

theorem recorded_toList_iff {state : Option TaskState} {other : TaskState} :
    (state.map recorded).toList = [recorded other] ↔ state = some other := by
  rw [Option.toList_eq_singleton_iff, Option.map_eq_some_iff]
  constructor
  · intro happens
    obtain ⟨known, isState, same⟩ := happens
    rw [isState, recorded_injective same]
  · intro isState
    exact ⟨other, isState, rfl⟩

/-- A call either changes its Task and goes on to its statement, or fails. -/
theorem start_cases
    {name : Nat} {call : Call} (taken : start calls name call = some target) :
    calls.threads name = none ∧ target.rows = calls.rows ∧
      (∃ pc, target.threads = calls.threads.put name ⟨call, pc⟩) ∧
        (call.outcome calls.registry = .ok target.registry ∨
          (∃ error, call.outcome calls.registry = .error error) ∧
            target.registry = calls.registry) := by
  unfold start at taken
  cases unused : calls.threads name with
  | some caller => simp [unused] at taken
  | none =>
      cases done : call.outcome calls.registry with
      | error error =>
          simp only [unused, done, Option.some.injEq] at taken
          subst taken
          exact ⟨rfl, rfl, ⟨_, rfl⟩, .inr ⟨⟨error, rfl⟩, rfl⟩⟩
      | ok updated =>
          simp only [unused, done, Option.some.injEq] at taken
          subst taken
          exact ⟨rfl, rfl, ⟨_, rfl⟩, .inl rfl⟩

theorem record_cases
    {name now : Nat} (taken : record calls name now = some target) :
    ∃ call conversationId,
      calls.threads name = some ⟨call, .record conversationId⟩ ∧
        target =
          Calls.put
            { calls with
              rows :=
                (calls.rows.recordTask call.taskId.text conversationId
                  (TaskRegistry.stateStr call.target) now).getD calls.rows }
            name ⟨call, .returned (.ok ())⟩ := by
  unfold record at taken
  split at taken
  · rename_i call conversationId found
    cases taken
    exact ⟨call, conversationId, found, rfl⟩
  · cases taken

theorem text_injective : Function.Injective TaskId.text := by
  intro first second same
  cases first
  cases second
  exact congrArg TaskId.mk same

/-- The registry holds the state that was asked for last. -/
theorem stateOf_of_step
    {action : Action} (taken : step action calls = some target)
    (id : TaskId) :
    target.registry.stateOf id =
      ((memoryWrite id calls action).map fun write =>
        some write.call.target).getD (calls.registry.stateOf id) := by
  cases action with
  | record name now =>
      obtain ⟨call, conversationId, _, rfl⟩ := record_cases taken
      rfl
  | start name call =>
      obtain ⟨_, _, _, done | ⟨⟨error, failed⟩, same⟩⟩ := start_cases taken
      · by_cases isTask : call.taskId = id
        · subst isTask
          simp only [memoryWrite, done, if_true, Option.map_some,
            Option.getD_some]
          exact TaskRegistry.stateOf_outcome_self done
        · simp only [memoryWrite, done, if_neg isTask, Option.map_none,
            Option.getD_none]
          exact TaskRegistry.stateOf_outcome_other done (Ne.symm isTask)
      · simp only [memoryWrite, failed, Option.map_none, Option.getD_none,
          same]

/-- A Task has no second row. -/
theorem single_of_step
    {action : Action} (single : (calls.rows.statesOf id.text).length ≤ 1)
    (taken : step action calls = some target) :
    (target.rows.statesOf id.text).length ≤ 1 := by
  cases action with
  | start name call =>
      rw [(start_cases taken).2.1]
      exact single
  | record name now =>
      obtain ⟨call, conversationId, _, rfl⟩ := record_cases taken
      cases done : calls.rows.recordTask call.taskId.text conversationId
          (TaskRegistry.stateStr call.target) now with
      | none => exact single
      | some written =>
          by_cases isTask : call.taskId = id
          · subst isTask
            simp only [Calls.put, Option.getD_some]
            rw [Rows.statesOf_recordTask_self single done]
            exact Nat.le_refl _
          · have different : id.text ≠ call.taskId.text := fun same =>
              isTask (text_injective same).symm
            simp only [Calls.put, Option.getD_some]
            rw [Rows.statesOf_recordTask_other different done]
            exact single

/-- The table holds what was recorded last. -/
theorem statesOf_of_step
    {action : Action} (single : (calls.rows.statesOf id.text).length ≤ 1)
    (succeeds : Succeeds calls action)
    (taken : step action calls = some target) :
    target.rows.statesOf id.text =
      ((rowWrite id calls action).map fun write =>
        [recorded write.call.target]).getD
          (calls.rows.statesOf id.text) := by
  cases action with
  | start name call =>
      rw [(start_cases taken).2.1]
      rfl
  | record name now =>
      obtain ⟨call, conversationId, found, rfl⟩ := record_cases taken
      obtain ⟨written, done⟩ :=
        Option.isSome_iff_exists.mp (succeeds call conversationId found)
      simp only [rowWrite, found, Calls.put, done, Option.getD_some]
      by_cases isTask : call.taskId = id
      · subst isTask
        simp only [if_true, Option.map_some, Option.getD_some, recorded_eq]
        exact Rows.statesOf_recordTask_self single done
      · have different : id.text ≠ call.taskId.text := fun same =>
          isTask (text_injective same).symm
        simp only [if_neg isTask, Option.map_none, Option.getD_none]
        exact Rows.statesOf_recordTask_other different done

/-- A thread works on one call. -/
theorem call_of_step
    {action : Action} {name : Nat} {call : Call}
    (taken : step action calls = some target)
    (works : ∃ pc, calls.threads name = some ⟨call, pc⟩) :
    ∃ pc, target.threads name = some ⟨call, pc⟩ := by
  obtain ⟨pc, found⟩ := works
  cases action with
  | start started other =>
      obtain ⟨unused, _, ⟨next, threads⟩, _⟩ := start_cases taken
      have different : name ≠ started := by
        intro same
        subst same
        rw [unused] at found
        cases found
      refine ⟨pc, ?_⟩
      rw [threads, Pool.put_other different]
      exact found
  | record recording now =>
      obtain ⟨other, conversationId, atRecord, rfl⟩ := record_cases taken
      by_cases same : name = recording
      · subst same
        rw [found] at atRecord
        cases atRecord
        exact ⟨_, Pool.put_self _ _ _⟩
      · exact ⟨pc, (Pool.put_other same).trans found⟩

/-! ## The table after a run -/

/-- A write is that of a call which has its name. -/
def Wrote (write : Write) (calls : Calls) : Prop :=
  ∃ pc, calls.threads write.name = some ⟨write.call, pc⟩

variable {trace : List Action}

theorem wrote_memory
    {ok : Calls → Action → Prop} {write : Write}
    (run : Machine.Run step ok init trace calls)
    (last : Machine.lastWrite step (memoryWrite id) trace init = some write) :
    Wrote write calls := by
  refine run.lastWrite_invariant Wrote ?_ ?_ last
  · intro trace source action target write _ _ taken writing
    cases action with
    | record name now => cases writing
    | start name call =>
        obtain ⟨_, _, ⟨pc, threads⟩, _⟩ := start_cases taken
        have isWrite : write = ⟨name, call⟩ := by
          simp only [memoryWrite] at writing
          split at writing
          · split at writing
            · exact (Option.some.inj writing).symm
            · cases writing
          · cases writing
        subst isWrite
        refine ⟨pc, ?_⟩
        rw [threads]
        exact Pool.put_self _ _ _
  · intro trace source action target write _ _ taken wrote
    exact call_of_step taken wrote

theorem wrote_row
    {ok : Calls → Action → Prop} {write : Write}
    (run : Machine.Run step ok init trace calls)
    (last : Machine.lastWrite step (rowWrite id) trace init = some write) :
    Wrote write calls := by
  refine run.lastWrite_invariant Wrote ?_ ?_ last
  · intro trace source action target write _ _ taken writing
    cases action with
    | start name call => cases writing
    | record name now =>
        obtain ⟨call, conversationId, found, _⟩ := record_cases taken
        have isWrite : write = ⟨name, call⟩ := by
          simp only [rowWrite, found] at writing
          split at writing
          · exact (Option.some.inj writing).symm
          · cases writing
        subst isWrite
        exact call_of_step taken ⟨_, found⟩
  · intro trace source action target write _ _ taken wrote
    exact call_of_step taken wrote

theorem call_of_wrote
    {first second : Write} (wrote : Wrote first calls)
    (wroteSecond : Wrote second calls) (same : first.name = second.name) :
    first.call = second.call := by
  obtain ⟨pc, found⟩ := wrote
  obtain ⟨otherPc, otherFound⟩ := wroteSecond
  rw [same, otherFound, Option.some.injEq, Caller.mk.injEq] at found
  exact found.1.symm

theorem stateOf_of_run
    {ok : Calls → Action → Prop}
    (run : Machine.Run step ok init trace calls) (id : TaskId) :
    calls.registry.stateOf id =
      ((Machine.lastWrite step (memoryWrite id) trace init).map fun write =>
        some write.call.target).getD (init.registry.stateOf id) := by
  refine run.cell_eq (fun state => state.registry.stateOf id)
    (fun write : Write => some write.call.target) ?_
  intro trace source action target _ _ taken
  exact stateOf_of_step taken id

theorem statesOf_of_run
    (agreed : Mirrors id init)
    (run : Machine.Run step Succeeds init trace calls) :
    calls.rows.statesOf id.text =
      ((Machine.lastWrite step (rowWrite id) trace init).map fun write =>
        [recorded write.call.target]).getD (init.rows.statesOf id.text) := by
  refine run.cell_eq (fun state => state.rows.statesOf id.text)
    (fun write : Write => [recorded write.call.target]) ?_
  intro trace source action target before succeeds taken
  have atStart : (init.rows.statesOf id.text).length ≤ 1 := by
    rw [agreed]
    exact Option.length_toList_le
  have single : (source.rows.statesOf id.text).length ≤ 1 :=
    before.invariant (fun state => (state.rows.statesOf id.text).length ≤ 1)
      atStart fun _ _ _ single _ taken => single_of_step single taken
  exact statesOf_of_step single succeeds taken

/-- The table mirrors the registry exactly when the last change and the last
statement are of one call, or of calls that ask for one state. -/
theorem row_mirrors_iff
    (agreed : Mirrors id init)
    (run : Machine.Run step Succeeds init trace calls) :
    Mirrors id calls ↔ SameOrigin id init trace := by
  have atStart :
      init.rows.statesOf id.text =
        ((init.registry.stateOf id).map recorded).toList :=
    agreed
  have atEnd :
      Mirrors id calls ↔
        calls.rows.statesOf id.text =
          ((calls.registry.stateOf id).map recorded).toList :=
    Iff.rfl
  rw [atEnd, stateOf_of_run run, statesOf_of_run agreed run, atStart]
  unfold SameOrigin
  generalize lastMemory :
    Machine.lastWrite step (memoryWrite id) trace init = changed
  generalize lastRow :
    Machine.lastWrite step (rowWrite id) trace init = stated
  match changed, stated with
  | none, none => exact iff_of_true rfl trivial
  | some changed, none => exact recorded_toList_iff
  | none, some stated => exact eq_comm.trans recorded_toList_iff
  | some changed, some stated =>
      have sameTarget :
          changed.name = stated.name →
            changed.call.target = stated.call.target := by
        intro sameName
        rw [call_of_wrote (wrote_memory run lastMemory) (wrote_row run lastRow)
          sameName]
      simp only [Option.map_some, Option.getD_some, Option.toList_some,
        List.cons.injEq, and_true]
      constructor
      · intro same
        exact .inr (recorded_injective same).symm
      · intro same
        rw [same.elim sameTarget fun asked => asked]

/-- An empty registry, and a table with the conversation of the Tasks to
come. -/
def Calls.empty : Calls :=
  { registry := .empty
    rows :=
      { conversations :=
          [{ conversationId := "c", acpSessionId := "s", cwd := "/work"
             callerId := "anonymous", createdAt := 0, lastUsedAt := 0 }]
        tasks := []
        pushConfigs := [] }
    threads := .empty }

/-- The statement about to run succeeds. -/
def succeeds (calls : Calls) : Action → Bool
  | .start _ _ => true
  | .record name now =>
      match calls.threads name with
      | some ⟨call, .record conversationId⟩ =>
          (calls.rows.recordTask call.taskId.text conversationId
            (TaskRegistry.stateStr call.target) now).isSome
      | _ => true

theorem succeeds_sound
    {action : Action} (passed : succeeds calls action = true) :
    Succeeds calls action := by
  cases action with
  | start name call => trivial
  | record name now =>
      intro call conversationId found
      simpa only [succeeds, found] using passed

/-- A cancel between two statements is written through last. -/
theorem canceled_task_mirrored :
    ∃ trace calls,
      Machine.exec step trace .empty = some calls ∧
        calls.registry.stateOf ⟨"t"⟩ = some .canceled ∧
          Mirrors ⟨"t"⟩ calls := by
  let trace : List Action :=
    [.start 0 (.create ⟨"t"⟩ "c" "s"), .start 1 (.transition ⟨"t"⟩ .working),
      .record 1 0, .record 0 1, .start 2 (.cancel ⟨"t"⟩), .record 2 2]
  obtain ⟨calls, executed⟩ : ∃ calls,
      Machine.execTested step succeeds trace .empty = some calls :=
    ⟨_, rfl⟩
  have run : Machine.Run step Succeeds .empty trace calls :=
    Machine.run_of_execTested (fun _ _ => succeeds_sound) executed
  have agreed : Mirrors ⟨"t"⟩ .empty := rfl
  have same : SameOrigin ⟨"t"⟩ .empty trace := .inl rfl
  refine ⟨trace, calls, run.exec_eq, ?_, (row_mirrors_iff agreed run).mpr same⟩
  cases executed
  rfl

/-- A continuation is not written through. -/
theorem continued_task_row_differs :
    ¬ ∀ id init trace calls,
        Mirrors id init → init.threads = .empty →
          Machine.Run step Succeeds init trace calls →
            Quiescent calls → Mirrors id calls := by
  intro claimed
  let trace : List Action :=
    [.start 0 (.create ⟨"t"⟩ "c" "s"), .record 0 0,
      .start 1 (.transition ⟨"t"⟩ .working), .record 1 1,
      .start 2 (.transition ⟨"t"⟩ .inputRequired), .record 2 2,
      .start 3 (.acceptContinuation ⟨"t"⟩)]
  obtain ⟨calls, executed⟩ : ∃ calls,
      Machine.execTested step succeeds trace .empty = some calls :=
    ⟨_, rfl⟩
  have run : Machine.Run step Succeeds .empty trace calls :=
    Machine.run_of_execTested (fun _ _ => succeeds_sound) executed
  have quiescent : Quiescent calls := by
    cases executed
    intro name caller found
    match name, found with
    | 0, found | 1, found | 2, found | 3, found =>
        cases found
        exact ⟨_, rfl⟩
    | _ + 4, found => cases found
  have mirrors := claimed ⟨"t"⟩ .empty trace calls rfl rfl run quiescent
  cases executed
  have same : [("input-required", false)] = [("working", false)] := mirrors
  exact absurd same (by decide)

end TaskRows

end A2AShim
