import A2AShim.Lib.CursorPaging
import A2AShim.Serve.TaskRegistry

/-!
# The order of the Tasks

The registry keeps its Tasks in a map and their identifiers in a list.  Both
hold the same Tasks, each once, so a page of the list is a page of the Tasks.
-/

namespace A2AShim

namespace TaskRegistry

/-- The registries the methods make: a new Task comes under an identifier that
is not in use, and everything else overwrites the binding of a known Task. -/
inductive Built : TaskRegistry → Prop
  | empty : Built .empty
  | create {registry : TaskRegistry} (built : Built registry) (id : TaskId)
      (conversationId acpSessionId : String)
      (fresh : registry.bindings id = none) :
      Built (registry.create id conversationId acpSessionId)
  | put {registry : TaskRegistry} {before : TaskBinding}
      (built : Built registry) (id : TaskId) (after : TaskBinding)
      (known : registry.bindings id = some before) :
      Built (registry.put id after)

/-- The list of identifiers names every Task once. -/
structure Indexed (registry : TaskRegistry) : Prop where
  distinct : registry.order.Nodup
  listed : ∀ id, id ∈ registry.order ↔ (registry.bindings id).isSome = true

variable {registry updated : TaskRegistry} {id : TaskId}

theorem Built.indexed (built : Built registry) : Indexed registry := by
  induction built with
  | empty => exact ⟨List.nodup_nil, by simp [TaskRegistry.empty]⟩
  | @create registry built id conversationId acpSessionId fresh
      inductionHypothesis =>
      have unlisted : id ∉ registry.order := by
        rw [inductionHypothesis.listed, fresh]
        simp
      refine ⟨?_, ?_⟩
      · exact List.nodup_append'.mpr
          ⟨inductionHypothesis.distinct, List.nodup_singleton id,
            by simpa using unlisted⟩
      · intro tested
        by_cases same : tested = id
        · subst same
          simp [TaskRegistry.create]
        · rw [create_other same, ← inductionHypothesis.listed]
          simp [TaskRegistry.create, same]
  | put built id after known inductionHypothesis =>
      refine ⟨inductionHypothesis.distinct, ?_⟩
      intro tested
      by_cases same : tested = id
      · subst same
        have isListed := (inductionHypothesis.listed tested).mpr
          (by rw [known]; rfl)
        simpa using isListed
      · rw [put_other same]
        exact inductionHypothesis.listed tested

theorem Built.transition
    {toState : TaskState} (built : Built registry)
    (accepted : registry.transition id toState = .ok updated) :
    Built updated := by
  obtain ⟨binding, known, _, rfl⟩ := transition_ok_iff.mp accepted
  exact built.put id _ known

theorem Built.acceptContinuation
    (built : Built registry)
    (accepted : registry.acceptContinuation id = .ok updated) :
    Built updated := by
  obtain ⟨binding, known, _, rfl⟩ := acceptContinuation_ok_iff.mp accepted
  exact built.put id _ known

theorem Built.cancel
    (built : Built registry)
    (accepted : registry.cancel id = .ok updated) :
    Built updated := by
  obtain ⟨binding, known, _, rfl⟩ := cancel_ok_iff.mp accepted
  exact built.put id _ known

/-! ## Pages -/

/-- The page size for a requested one. -/
def pageLimit (limit : Nat) : Nat :=
  if limit = 0 then 50 else min limit 1000

theorem pageLimit_pos (limit : Nat) : 0 < pageLimit limit := by
  unfold pageLimit
  split <;> omega

theorem snapshot_id
    {task : Task} (found : registry.snapshot id = some task) :
    task.id = id := by
  obtain ⟨binding, _, rfl⟩ := Option.map_eq_some_iff.mp found
  rfl

theorem ids_of_snapshots
    {ids : List TaskId}
    (known : ∀ id, id ∈ ids → (registry.bindings id).isSome = true) :
    (ids.filterMap registry.snapshot).map Task.id = ids := by
  induction ids with
  | nil => rfl
  | cons id rest inductionHypothesis =>
      obtain ⟨binding, found⟩ :=
        Option.isSome_iff_exists.mp (known id List.mem_cons_self)
      have isSnapshot : registry.snapshot id = some (binding.snapshot id) := by
        rw [snapshot, found]
        rfl
      rw [List.filterMap_cons_some isSnapshot, List.map_cons,
        inductionHypothesis fun tested member =>
          known tested (List.mem_cons_of_mem id member)]
      rfl

/-- The identifiers of a page are a page of the identifiers. -/
theorem list_page
    (indexed : Indexed registry) (after : Option TaskId) (limit : Nat) :
    ((registry.list after limit).1.map Task.id,
        (registry.list after limit).2) =
      CursorPaging.page (pageLimit limit) registry.order after := by
  have fromStart : ∀ start, start ≤ registry.order.length →
      ((((registry.order.take
            (min (start + pageLimit limit) registry.order.length)).drop
              start).filterMap registry.snapshot).map Task.id =
          (registry.order.drop start).take (pageLimit limit)) ∧
        (min (start + pageLimit limit) registry.order.length <
            registry.order.length ↔
          pageLimit limit < (registry.order.drop start).length) := by
    intro start within
    constructor
    · rw [ids_of_snapshots]
      · rw [← List.take_eq_take_min, Nat.add_comm, List.drop_take,
          Nat.add_sub_cancel]
      · intro id member
        exact (indexed.listed id).mp
          (List.mem_of_mem_take (List.mem_of_mem_drop member))
    · rw [List.length_drop]
      omega
  have paged : ∀ start rest, registry.order.drop start = rest →
      start ≤ registry.order.length →
        ∀ tasks, tasks =
            ((registry.order.take
              (min (start + pageLimit limit) registry.order.length)).drop
                start).filterMap registry.snapshot →
          (tasks.map Task.id,
              if min (start + pageLimit limit) registry.order.length <
                  registry.order.length then
                tasks.getLast?.map Task.id
              else
                none) =
            (rest.take (pageLimit limit),
              if pageLimit limit < rest.length then
                (rest.take (pageLimit limit)).getLast?
              else
                none) := by
    intro start rest isRest within tasks isTasks
    obtain ⟨ids, more⟩ := fromStart start within
    subst isRest isTasks
    simp only [more]
    rw [← List.getLast?_map, ids]
  cases after with
  | none => exact paged 0 registry.order rfl (Nat.zero_le _) _ rfl
  | some cursor =>
      simp only [list, CursorPaging.page, CursorPaging.behind]
      cases found : registry.order.findIdx? (· = cursor) with
      | none => rfl
      | some position =>
          obtain ⟨within, _⟩ := List.findIdx?_eq_some_iff_getElem.mp found
          exact paged (position + 1) _ rfl within _ rfl

end TaskRegistry

end A2AShim
