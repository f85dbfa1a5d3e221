import A2AShim.Serve.CallerPartition
import A2AShim.Serve.TaskOrder

/-!
# Which Tasks a reset cancels

The reset handler looks for the Tasks of its key in one page of the list, and
the list caps every page at a thousand Tasks.  The registry never shrinks, so
the first thousand Tasks are the oldest ones.
-/

namespace A2AShim

namespace TaskRegistry

/-- The Task belongs to the key and is not finished. -/
def isActive (registry : TaskRegistry) (key : String) (id : TaskId) : Bool :=
  (registry.bindings id).any fun binding =>
    binding.conversationId == key && !binding.state.isTerminal

variable {registry : TaskRegistry} {key : String} {id : TaskId}

theorem isActive_iff :
    registry.isActive key id = true ↔
      ∃ binding, registry.bindings id = some binding ∧
        binding.conversationId = key ∧ binding.state.isTerminal = false := by
  simp [isActive, Option.any_eq_true]

/-- The selected Tasks of a page, as identifiers. -/
theorem ids_of_selected (ids : List TaskId) :
    (((ids.filterMap registry.snapshot).filter fun task =>
        task.contextId == some key && !task.status.state.isTerminal).map
          Task.id) =
      ids.filter (registry.isActive key) := by
  induction ids with
  | nil => rfl
  | cons id rest inductionHypothesis =>
      cases found : registry.bindings id with
      | none =>
          have unknown : registry.snapshot id = none := by
            rw [snapshot, found]
            rfl
          have inactive : registry.isActive key id = false := by
            simp [isActive, found]
          rw [List.filterMap_cons_none unknown, inductionHypothesis,
            List.filter_cons_of_neg (by simp [inactive])]
      | some binding =>
          have known : registry.snapshot id = some (binding.snapshot id) := by
            rw [snapshot, found]
            rfl
          have selected :
              ((binding.snapshot id).contextId == some key &&
                  !(binding.snapshot id).status.state.isTerminal) =
                registry.isActive key id := by
            simp [isActive, found, TaskBinding.snapshot]
          cases active : registry.isActive key id with
          | true =>
              simp only [List.filterMap_cons_some known, List.filter_cons,
                selected, active, if_true, List.map_cons,
                inductionHypothesis]
              rfl
          | false =>
              simp only [List.filterMap_cons_some known, List.filter_cons,
                selected, active, Bool.false_eq_true, if_false,
                inductionHypothesis]

end TaskRegistry

namespace Http

open TaskRegistry

/-- The targets of a reset are among the first thousand Tasks. -/
theorem targets_eq (tasks : TaskRegistry) (key : String) :
    Resetting.targets tasks key =
      (tasks.order.take 1000).filter (tasks.isActive key) := by
  rw [← ids_of_selected]
  simp only [Resetting.targets, TaskRegistry.list]
  congr 3
  simp [← List.take_eq_take_min]

/-- All the Tasks of a list that are active are canceled, in its order. -/
theorem cancelAll_active
    {ids : List TaskId} {key : String} (tasks : TaskRegistry)
    (distinct : ids.Nodup)
    (active : ∀ id, id ∈ ids → tasks.isActive key id = true) :
    (cancelAll ids tasks).1 = ids ∧
      ∀ id, id ∈ ids →
        ((cancelAll ids tasks).2.bindings id).map TaskBinding.state =
          some .canceled := by
  induction ids generalizing tasks with
  | nil => exact ⟨rfl, nofun⟩
  | cons id rest inductionHypothesis =>
      obtain ⟨notInRest, restDistinct⟩ := List.nodup_cons.mp distinct
      obtain ⟨binding, found, _, unfinished⟩ :=
        isActive_iff.mp (active id List.mem_cons_self)
      have accepted : tasks.cancel id =
          .ok (tasks.put id { binding with state := .canceled }) :=
        cancel_ok_iff.mpr ⟨binding, found, unfinished, rfl⟩
      have restActive : ∀ tested, tested ∈ rest →
          (tasks.put id { binding with state := .canceled }).isActive key
            tested = true := by
        intro tested member
        have different : tested ≠ id := fun same => notInRest (same ▸ member)
        rw [isActive, put_other different]
        exact active tested (List.mem_cons_of_mem id member)
      obtain ⟨allCanceled, states⟩ :=
        inductionHypothesis _ restDistinct restActive
      simp only [cancelAll, accepted]
      refine ⟨congrArg (List.cons id) allCanceled, ?_⟩
      intro tested member
      rcases List.mem_cons.mp member with rfl | inRest
      · rw [cancelAll_other _ notInRest, put_self]
        rfl
      · exact states tested inRest

/-! ## The contract -/

/-- After the reset no Task of the key is left unfinished, and the answer
lists those that were, in the order of their creation, each once. -/
structure CancelsAll (statements : ResetStatements) (state : ServeState)
    (key : String) : Prop where
  finished : ∀ id binding,
    (handleConversationReset statements state key).2.tasks.bindings id =
        some binding →
      binding.conversationId = key → binding.state.isTerminal = true
  listed : (handleConversationReset statements state key).1.cancelledTaskIds =
    state.tasks.order.filter (state.tasks.isActive key)
  distinct :
    (handleConversationReset statements state key).1.cancelledTaskIds.Nodup

variable {statements : ResetStatements} {state : ServeState} {key : String}

/-- The Tasks that the handler leaves, and those it names. -/
theorem handler_cancels :
    (handleConversationReset statements state key).1.cancelledTaskIds =
        (cancelAll (Resetting.targets state.tasks key) state.tasks).1 ∧
      (handleConversationReset statements state key).2.tasks =
        (cancelAll (Resetting.targets state.tasks key) state.tasks).2 := by
  have whole := @cancelTargets_eq statements
    (Resetting.targets state.tasks key) state.tasks state.rows
  unfold handleConversationReset
  cases (state.conversations.get key).bind state.conversations.objects with
  | none => exact whole
  | some conversation => exact whole

/-- An unfinished Task behind the first page is left as it is. -/
theorem not_cancelsAll_of_later
    {id : TaskId} (built : Built state.tasks)
    (later : id ∈ state.tasks.order.drop 1000)
    (active : state.tasks.isActive key id = true) :
    ¬ CancelsAll statements state key := by
  intro cancels
  have distinct : (state.tasks.order.take 1000 ++
      state.tasks.order.drop 1000).Nodup := by
    rw [List.take_append_drop]
    exact built.indexed.distinct
  have untargeted : id ∉ Resetting.targets state.tasks key := by
    rw [targets_eq]
    intro member
    exact (List.nodup_append'.mp distinct).2.2 (List.mem_of_mem_filter member)
      later
  obtain ⟨binding, found, ownKey, unfinished⟩ := isActive_iff.mp active
  have kept :
      (handleConversationReset statements state key).2.tasks.bindings id =
        some binding := by
    rw [handler_cancels.2, cancelAll_other state.tasks untargeted]
    exact found
  have finished := cancels.finished id binding kept ownKey
  rw [unfinished] at finished
  cases finished

/-- A reset cancels everything it names unless an unfinished Task of the key
is behind the first thousand Tasks. -/
theorem reset_cancels_all_iff
    (statements : ResetStatements) (state : ServeState) (key : String)
    (built : Built state.tasks) :
    CancelsAll statements state key ↔
      ∀ id, id ∈ state.tasks.order.drop 1000 →
        state.tasks.isActive key id = false := by
  constructor
  · intro cancels id later
    rw [← Bool.not_eq_true]
    exact fun active => not_cancelsAll_of_later built later active cancels
  · intro noneLater
    have isTargets : Resetting.targets state.tasks key =
        state.tasks.order.filter (state.tasks.isActive key) := by
      have noneSelected : (state.tasks.order.drop 1000).filter
          (state.tasks.isActive key) = [] := by
        apply List.filter_eq_nil_iff.mpr
        intro id later
        rw [noneLater id later]
        simp
      calc
        Resetting.targets state.tasks key =
            (state.tasks.order.take 1000).filter (state.tasks.isActive key) ++
              (state.tasks.order.drop 1000).filter
                (state.tasks.isActive key) := by
          rw [targets_eq, noneSelected, List.append_nil]
        _ = state.tasks.order.filter (state.tasks.isActive key) := by
          rw [← List.filter_append, List.take_append_drop]
    have distinct : (Resetting.targets state.tasks key).Nodup := by
      rw [isTargets]
      exact built.indexed.distinct.filter _
    have active : ∀ id, id ∈ Resetting.targets state.tasks key →
        state.tasks.isActive key id = true := by
      rw [isTargets]
      exact fun id member => (List.mem_filter.mp member).2
    obtain ⟨allCanceled, states⟩ :=
      cancelAll_active state.tasks distinct active
    obtain ⟨answer, left⟩ := @handler_cancels statements state key
    refine ⟨?_, ?_, ?_⟩
    · intro id binding found ownKey
      rw [left] at found
      by_cases targeted : id ∈ Resetting.targets state.tasks key
      · have canceled := states id targeted
        rw [found, Option.map_some, Option.some.injEq] at canceled
        rw [canceled]
        rfl
      · rw [cancelAll_other state.tasks targeted] at found
        by_contra unfinished
        apply targeted
        rw [isTargets, List.mem_filter, built.indexed.listed, found]
        exact ⟨rfl, isActive_iff.mpr
          ⟨binding, found, ownKey, by simpa using unfinished⟩⟩
    · rw [answer, allCanceled, isTargets]
    · rw [answer, allCanceled]
      exact distinct

/-! ## A thousand Tasks and one -/

def numbered (count : Nat) : TaskId :=
  ⟨String.ofList (List.replicate count 'x')⟩

/-- The registry after so many Tasks of conversation `c`. -/
def crowd : Nat → TaskRegistry
  | 0 => .empty
  | count + 1 => (crowd count).create (numbered count) "c" "s"

theorem numbered_injective : Function.Injective numbered := by
  intro first second same
  have sameText := congrArg (fun id => id.text.toList.length) same
  simpa [numbered] using sameText

theorem crowd_bindings (count tested : Nat) :
    (crowd count).bindings (numbered tested) =
      if tested < count then some (freshBinding "c" "s") else none := by
  induction count with
  | zero => rfl
  | succ count inductionHypothesis =>
      by_cases same : tested = count
      · subst same
        simp [crowd]
      · have different : numbered tested ≠ numbered count :=
          fun sameId => same (numbered_injective sameId)
        rw [crowd, create_other different, inductionHypothesis]
        have sameTest : tested < count ↔ tested < count + 1 := by omega
        simp only [sameTest]

theorem crowd_order (count : Nat) :
    (crowd count).order = (List.range count).map numbered := by
  induction count with
  | zero => rfl
  | succ count inductionHypothesis =>
      rw [List.range_succ, List.map_append, ← inductionHypothesis]
      rfl

theorem crowd_built (count : Nat) : Built (crowd count) := by
  induction count with
  | zero => exact .empty
  | succ count inductionHypothesis =>
      refine .create inductionHypothesis (numbered count) "c" "s" ?_
      rw [crowd_bindings, if_neg (Nat.lt_irrefl count)]

/-- The last of a thousand and one unfinished Tasks survives the reset. -/
theorem reset_misses_late_task :
    ∃ statements state key,
      Built state.tasks ∧ ¬ CancelsAll statements state key := by
  have isLate : numbered 1000 ∈ (crowd 1001).order.drop 1000 := by
    have split : (crowd 1001).order =
        (List.range 1000).map numbered ++ [numbered 1000] := by
      rw [crowd_order, List.range_succ, List.map_append]
      rfl
    rw [split, List.drop_append_of_le_length (by simp)]
    exact List.mem_append_right _ (List.mem_singleton.mpr rfl)
  have unfinished : (crowd 1001).isActive "c" (numbered 1000) = true := by
    refine isActive_iff.mpr ⟨freshBinding "c" "s", ?_, rfl, rfl⟩
    exact (crowd_bindings 1001 1000).trans (if_pos (by omega))
  exact ⟨⟨fun _ => none, true⟩,
    { oneConversation with tasks := crowd 1001 }, "c", crowd_built 1001,
    not_cancelsAll_of_later (crowd_built 1001) isLate unfinished⟩

/-- Three Tasks fit on the page. -/
theorem reset_cancels_few_tasks :
    ∃ statements state key,
      Built state.tasks ∧ CancelsAll statements state key ∧
        (handleConversationReset statements state key).1.cancelledTaskIds =
          [numbered 0, numbered 1, numbered 2] := by
  have few : ∀ id, id ∈ (crowd 3).order.drop 1000 →
      (crowd 3).isActive "c" id = false := by
    rw [crowd_order, List.drop_eq_nil_of_le (by simp)]
    exact nofun
  refine ⟨⟨fun _ => none, true⟩, { oneConversation with tasks := crowd 3 },
    "c", crowd_built 3, ?_, ?_⟩
  · exact (reset_cancels_all_iff _ _ "c" (crowd_built 3)).mpr few
  · rfl

end Http

end A2AShim
