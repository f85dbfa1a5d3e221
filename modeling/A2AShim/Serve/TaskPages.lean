import A2AShim.Serve.Http
import A2AShim.Serve.TaskGraph
import A2AShim.Serve.TaskOrder

/-!
# Listing all Tasks, page by page

A client follows `nextPageToken` with any page sizes, while other requests
create Tasks and change their states between its calls.
-/

namespace A2AShim

/-- Parameters of `ListTasks`. -/
structure ListTasksParams where
  pageSize : Option Nat
  pageToken : Option String
  deriving DecidableEq, Repr

namespace ListTasksParams

def usizeOfValue : Value → Option Nat
  | .number (.int value) =>
      if 0 ≤ value ∧ value < 2 ^ 64 then some value.toNat else none
  | _ => none

/-- Both members have a default, so a sequence may end early. -/
def members : Value → Option Value
  | .object members => some (.object members)
  | .array items =>
      if items.length ≤ 2 then
        some (.object (["pageSize", "pageToken"].zip items))
      else
        none
  | _ => none

def ofValue (value : Value) : Option ListTasksParams := do
  let members ← members value
  let pageSize ← Value.optional usizeOfValue (members.get "pageSize")
  let pageToken ← Value.optional Value.asStr (members.get "pageToken")
  return { pageSize, pageToken }

end ListTasksParams

namespace Http

/-- The page, and `nextPageToken`. -/
def listTasks (params : ListTasksParams) (tasks : TaskRegistry) :
    List Task × Option String :=
  let page :=
    tasks.list (params.pageToken.map TaskId.mk) (params.pageSize.getD 0)
  (page.1, page.2.map TaskId.text)

def handleListTasks (json : SerdeJson) (params : Value)
    (tasks : TaskRegistry) :
    Except JsonRpcError (List Task × Option String) :=
  match ListTasksParams.ofValue params with
  | none => .error (invalidParams ("invalid params: " ++ json.rejection params))
  | some parsed => .ok (listTasks parsed tasks)

end Http

namespace TaskRegistry

open Machine

/-! ## The traversal -/

/-- The registry, and a client that has got `tasks` and follows `token`. -/
structure Traversal where
  registry : TaskRegistry
  tasks : List Task
  token : Option String
  finished : Bool

namespace Traversal

def begin (registry : TaskRegistry) : Traversal :=
  { registry, tasks := [], token := none, finished := false }

inductive Action where
  | call (call : TaskRegistry.Call)
  | read (pageSize : Option Nat)
  deriving DecidableEq, Repr

def step : Action → Traversal → Option Traversal
  | .call call, traversal =>
      some { traversal with registry := (call.run traversal.registry).2 }
  | .read pageSize, traversal =>
      if traversal.finished then none
      else
        let answer :=
          Http.listTasks { pageSize, pageToken := traversal.token }
            traversal.registry
        some
          { traversal with
            tasks := traversal.tasks ++ answer.1
            token := answer.2
            finished := answer.2.isNone }

/-- New Tasks come under new identifiers. -/
def Fresh (traversal : Traversal) : Action → Prop
  | .call call => call.FreshId traversal.registry
  | .read _ => True

/-- Nothing is created any more. -/
def Settled (traversal : Traversal) (action : Action) : Prop :=
  Fresh traversal action ∧
    ∀ id conversationId acpSessionId,
      action ≠ .call (.create id conversationId acpSessionId)

/-- The Task an action creates. -/
def Action.created? : Action → Option TaskId
  | .call (.create id _ _) => some id
  | _ => none

def Action.isRead : Action → Bool
  | .read _ => true
  | .call _ => false

/-- What the client has got is a prefix of the list, and its token the last
Task of it. -/
structure OnTrack (traversal : Traversal) : Prop where
  built : Built traversal.registry
  follows : traversal.finished = false →
    CursorPaging.Follows traversal.registry.order
      (traversal.tasks.map Task.id) (traversal.token.map TaskId.mk)

end Traversal

/-- A call that creates nothing overwrites one binding at most. -/
theorem run_puts
    {call : Call} (registry : TaskRegistry)
    (createsNone : Traversal.Action.created? (.call call) = none) :
    (call.run registry).2 = registry ∨
      ∃ id before after, registry.bindings id = some before ∧
        (call.run registry).2 = registry.put id after := by
  unfold Call.run
  cases outcome : call.outcome registry with
  | error error => exact .inl rfl
  | ok updated =>
      right
      cases call with
      | create id conversationId acpSessionId => cases createsNone
      | transition id toState =>
          obtain ⟨binding, known, _, isUpdated⟩ :=
            transition_ok_iff.mp outcome
          exact ⟨id, binding, _, known, isUpdated⟩
      | acceptContinuation id =>
          obtain ⟨binding, known, _, isUpdated⟩ :=
            acceptContinuation_ok_iff.mp outcome
          exact ⟨id, binding, _, known, isUpdated⟩
      | cancel id =>
          obtain ⟨binding, known, _, isUpdated⟩ := cancel_ok_iff.mp outcome
          exact ⟨id, binding, _, known, isUpdated⟩

theorem Built.run
    {registry : TaskRegistry} {call : Call} (built : Built registry)
    (fresh : call.FreshId registry) :
    Built (call.run registry).2 := by
  cases created : Traversal.Action.created? (.call call) with
  | some id =>
      cases call with
      | create id conversationId acpSessionId =>
          exact built.create id conversationId acpSessionId
            (fresh id conversationId acpSessionId rfl)
      | _ => cases created
  | none =>
      rcases run_puts registry created with same | ⟨id, before, after, known, put⟩
      · rw [same]
        exact built
      · rw [put]
        exact built.put id after known

/-- A call adds to the list what it creates, and nothing else. -/
theorem order_of_run (registry : TaskRegistry) (call : Call) :
    (call.run registry).2.order =
      registry.order ++
        (Traversal.Action.created? (.call call)).toList := by
  cases created : Traversal.Action.created? (.call call) with
  | some id =>
      cases call with
      | create id conversationId acpSessionId =>
          cases created
          rfl
      | _ => cases created
  | none =>
      rw [Option.toList_none, List.append_nil]
      rcases run_puts registry created with same | ⟨id, before, after, known, put⟩
      · rw [same]
      · rw [put, put_order]

namespace Traversal

variable {traversal after later : Traversal} {action : Action}
variable {initial : TaskRegistry} {pageSize : Option Nat}

theorem onTrack_begin (built : Built initial) : OnTrack (begin initial) :=
  ⟨built, fun _ => CursorPaging.follows_start _⟩

/-- One read: the client goes on with what it has got so far, or has got
everything. -/
theorem OnTrack.read
    (onTrack : OnTrack traversal)
    (taken : step (.read pageSize) traversal = some after) :
    after.registry = traversal.registry ∧ traversal.finished = false ∧
      ((after.finished = false ∧
          traversal.tasks.length < after.tasks.length ∧
            CursorPaging.Follows after.registry.order
              (after.tasks.map Task.id) (after.token.map TaskId.mk)) ∨
        (after.finished = true ∧
          after.tasks.map Task.id = after.registry.order)) := by
  simp only [step] at taken
  split at taken
  · cases taken
  · rename_i unfinished
    have notYet : traversal.finished = false := by simpa using unfinished
    cases taken
    refine ⟨rfl, notYet, ?_⟩
    have paged := list_page onTrack.built.indexed
      (traversal.token.map TaskId.mk) (pageSize.getD 0)
    have outcome := (onTrack.follows notYet).read
      onTrack.built.indexed.distinct (pageLimit_pos (pageSize.getD 0))
    rw [← paged] at outcome
    simp only at outcome
    rcases outcome with ⟨next, isNext, more, follows⟩ | ⟨isLast, whole⟩
    · left
      refine ⟨?_, ?_, ?_⟩
      · simp [Http.listTasks, isNext]
      · have pageLength : 0 < (traversal.registry.list
            (traversal.token.map TaskId.mk) (pageSize.getD 0)).1.length := by
          simpa [List.length_pos_iff] using more
        simp only [Http.listTasks, List.length_append]
        omega
      · simp only [Http.listTasks, List.map_append, isNext, Option.map_some]
        exact follows
    · right
      exact ⟨by simp [Http.listTasks, isLast],
        by simpa [Http.listTasks] using whole⟩

theorem OnTrack.step
    (onTrack : OnTrack traversal) (fresh : Fresh traversal action)
    (taken : step action traversal = some after) :
    OnTrack after := by
  cases action with
  | call call =>
      cases taken
      refine ⟨onTrack.built.run fresh, ?_⟩
      intro unfinished
      have grown := (onTrack.follows unfinished).grow
        (Action.created? (.call call)).toList
      rw [← order_of_run] at grown
      exact grown
  | read pageSize =>
      obtain ⟨sameRegistry, _, outcome⟩ := onTrack.read taken
      refine ⟨by rw [sameRegistry]; exact onTrack.built, ?_⟩
      intro unfinished
      rcases outcome with ⟨_, _, follows⟩ | ⟨finished, _⟩
      · exact follows
      · rw [finished] at unfinished
        cases unfinished

theorem onTrack_of_run
    {trace : List Action} (built : Built initial)
    (run : Run step Fresh (begin initial) trace traversal) :
    OnTrack traversal :=
  run.invariant OnTrack (onTrack_begin built)
    fun _ _ _ onTrack fresh taken => onTrack.step fresh taken

theorem order_of_step
    (taken : step action traversal = some after) :
    after.registry.order =
      traversal.registry.order ++ action.created?.toList := by
  cases action with
  | call call =>
      cases taken
      exact order_of_run traversal.registry call
  | read pageSize =>
      simp only [step] at taken
      split at taken
      · cases taken
      · cases taken
        exact (List.append_nil _).symm

/-- The list is the record of the creations. -/
theorem order_of_trace
    {ok : Traversal → Action → Prop} {trace : List Action}
    (run : Run step ok traversal trace later) :
    later.registry.order =
      traversal.registry.order ++ trace.filterMap Action.created? := by
  induction run with
  | start => simp
  | snoc before _ taken inductionHypothesis =>
      rw [order_of_step taken, inductionHypothesis, List.filterMap_append,
        List.append_assoc]
      congr 2

/-- Without creations, every read but the last one gets another Task. -/
theorem reads_bounded
    {trace : List Action} (onTrack : OnTrack traversal)
    (run : Run step Settled traversal trace later) :
    OnTrack later ∧ later.registry.order = traversal.registry.order ∧
      (later.finished = false →
        traversal.tasks.length + trace.countP Action.isRead ≤
          later.tasks.length) := by
  induction run with
  | start => exact ⟨onTrack, rfl, fun _ => by simp⟩
  | @snoc trace source target action before settled taken
      inductionHypothesis =>
      obtain ⟨stillOnTrack, sameOrder, bounded⟩ := inductionHypothesis
      refine ⟨stillOnTrack.step settled.1 taken, ?_, ?_⟩
      · rw [order_of_step taken, sameOrder]
        cases action with
        | call call =>
            cases call with
            | create id conversationId acpSessionId =>
                exact absurd rfl
                  (settled.2 id conversationId acpSessionId)
            | _ => simp [Action.created?]
        | read pageSize => simp [Action.created?]
      · intro unfinished
        rw [List.countP_append]
        cases action with
        | call call =>
            cases taken
            simpa [Action.isRead] using bounded unfinished
        | read pageSize =>
            obtain ⟨_, notYet, ⟨_, more, _⟩ | ⟨finished, _⟩⟩ :=
              stillOnTrack.read taken
            · have earlier := bounded notYet
              simp only [Action.isRead, List.countP_singleton, if_true]
              omega
            · rw [finished] at unfinished
              cases unfinished

/-! ## The contract -/

/-- What a client can rely on who follows the tokens to the end. -/
structure Complete (initial : TaskRegistry) (trace : List Action)
    (traversal : Traversal) : Prop where
  /-- A page without a token ends a list of all Tasks there are now. -/
  everything : ∀ pageSize after,
    step (.read pageSize) traversal = some after → after.finished = true →
      after.tasks.map Task.id =
          initial.order ++ trace.filterMap Action.created? ∧
        (after.tasks.map Task.id).Nodup ∧
          ∀ id, id ∈ after.tasks.map Task.id ↔
            (after.registry.bindings id).isSome = true
  /-- Until then there is a next page. -/
  goesOn : traversal.finished = false →
    ∀ pageSize, (step (.read pageSize) traversal).isSome = true
  /-- Without further creations the pages come to an end. -/
  ends : ∀ rest later, Run step Settled traversal rest later →
    traversal.registry.order.length < rest.countP Action.isRead →
      later.finished = true
  /-- A token stays good. -/
  known : ∀ pageToken limit token,
    (traversal.registry.list pageToken limit).2 = some token →
      ∀ rest later, Run step Fresh traversal rest later →
        (later.registry.order.findIdx? (· = token)).isSome = true

/-- Whatever the page sizes, and whatever happens between the calls. -/
theorem list_traversal_is_complete
    {trace : List Action} (built : Built initial)
    (run : Run step Fresh (begin initial) trace traversal) :
    Complete initial trace traversal := by
  have onTrack := onTrack_of_run built run
  have order := order_of_trace run
  refine ⟨?_, ?_, ?_, ?_⟩
  · intro pageSize after taken finished
    obtain ⟨sameRegistry, _, ⟨unfinished, _⟩ | ⟨_, whole⟩⟩ :=
      onTrack.read taken
    · rw [finished] at unfinished
      cases unfinished
    · have indexed := onTrack.built.indexed
      rw [whole, sameRegistry]
      exact ⟨order, indexed.distinct, indexed.listed⟩
  · intro unfinished pageSize
    simp [step, unfinished]
  · intro rest later afterwards enough
    by_contra notFinished
    have unfinished : later.finished = false := by simpa using notFinished
    obtain ⟨laterOnTrack, sameOrder, bounded⟩ :=
      reads_bounded onTrack afterwards
    have within := (laterOnTrack.follows unfinished).1.length_le
    have manyReads := bounded unfinished
    rw [sameOrder, List.length_map] at within
    omega
  · intro pageToken limit token isToken rest later afterwards
    have paged := congrArg Prod.snd
      (list_page onTrack.built.indexed pageToken limit)
    rw [isToken] at paged
    have member := CursorPaging.cursor_mem paged.symm
    rw [List.findIdx?_isSome, List.any_eq_true]
    refine ⟨token, ?_, by simp⟩
    rw [order_of_trace afterwards]
    exact List.mem_append_left _ member

/-- Two pages, between which a Task is created and one canceled. -/
theorem interleaved_pages_list_all :
    ∃ trace traversal after,
      Run step Fresh (begin .empty) trace traversal ∧
        step (.read (some 0)) traversal = some after ∧
        after.finished = true ∧
        after.tasks.map Task.id =
          TaskRegistry.empty.order ++ trace.filterMap Action.created? ∧
        trace.filterMap Action.created? = [⟨"a"⟩, ⟨"b"⟩, ⟨"c"⟩] := by
  let trace : List Action :=
    [.call (.create ⟨"a"⟩ "k" "s"), .call (.create ⟨"b"⟩ "k" "s"),
      .read (some 1), .call (.create ⟨"c"⟩ "k" "s"), .call (.cancel ⟨"a"⟩)]
  let unused (traversal : Traversal) (action : Action) : Bool :=
    match action with
    | .call (.create id _ _) => (traversal.registry.bindings id).isNone
    | _ => true
  have sound : ∀ traversal action, unused traversal action = true →
      Fresh traversal action := by
    intro traversal action passed
    cases action with
    | read pageSize => trivial
    | call call =>
        intro id conversationId acpSessionId created
        subst created
        simpa [unused] using passed
  obtain ⟨traversal, after, executed, taken, finished⟩ :
      ∃ traversal after,
        execTested step unused trace (begin .empty) = some traversal ∧
          step (.read (some 0)) traversal = some after ∧
            after.finished = true := ⟨_, _, rfl, rfl, rfl⟩
  have run := run_of_execTested sound executed
  have complete := list_traversal_is_complete .empty run
  exact ⟨trace, traversal, after, run, taken, finished,
    (complete.everything (some 0) after taken finished).1, rfl⟩

end Traversal

end TaskRegistry

end A2AShim
