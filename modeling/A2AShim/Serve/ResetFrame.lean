import A2AShim.Serve.PushMirror
import A2AShim.Serve.ResetTargets
import A2AShim.Serve.TaskRows

/-!
# What a reset leaves alone

A reset touches nothing of another key, and a second one finds nothing to do.
It cancels the Tasks of its key whether or not a conversation is bound to it,
though, and Tasks outlive a conversation that the idle sweep removes.
-/

namespace A2AShim

namespace Http

variable {statements : ResetStatements} {state : ServeState}
variable {key : String} {tasks : TaskRegistry} {id : TaskId}
variable {targets : List TaskId}

/-! ## The rows of other keys -/

/-- The row is that of a Task of the key. -/
def IsTaskOf (tasks : TaskRegistry) (key taskId : String) : Prop :=
  ∃ id binding, id.text = taskId ∧ tasks.bindings id = some binding ∧
    binding.conversationId = key

/-- The rows that neither name the key nor belong to one of its Tasks are what
they were. -/
structure KeepsRowsBut (registry : TaskRegistry) (key : String)
    (before after : Rows) : Prop where
  conversations : ∀ row : ConversationRow, row.conversationId ≠ key →
    (row ∈ after.conversations ↔ row ∈ before.conversations)
  tasks : ∀ row : TaskRow, row.conversationId ≠ key →
    ¬ IsTaskOf registry key row.taskId →
      (row ∈ after.tasks ↔ row ∈ before.tasks)
  pushConfigs : ∀ row : PushConfigRow, ¬ before.HasTaskIn key row.taskId →
    ¬ IsTaskOf registry key row.taskId →
      (row ∈ after.pushConfigs ↔ row ∈ before.pushConfigs)

/-- A statement on one Task leaves the rows of the others. -/
structure KeepsRowsOfOthers (taskId : String) (before after : Rows) :
    Prop where
  conversations : after.conversations = before.conversations
  tasks : ∀ row : TaskRow, row.taskId ≠ taskId →
    (row ∈ after.tasks ↔ row ∈ before.tasks)
  pushConfigs : after.pushConfigs = before.pushConfigs

theorem keepsRowsOfOthers_recordTask
    {rows written : Rows} {taskId conversationId taskState : String}
    {now : Nat}
    (stored : rows.recordTask taskId conversationId taskState now =
      some written) :
    KeepsRowsOfOthers taskId rows written := by
  have configs := Rows.pushConfigs_recordTask stored
  obtain ⟨terminalAt, _, ⟨_, rfl⟩ | ⟨_, _, rfl⟩⟩ :=
    Rows.recordTask_cases stored
  · refine ⟨rfl, ?_, configs⟩
    intro row different
    simp only [List.mem_map]
    constructor
    · rintro ⟨source, member, updated⟩
      split at updated
      · rename_i isTask
        rw [← updated] at different
        exact absurd isTask different
      · rw [← updated]
        exact member
    · intro member
      exact ⟨row, member, if_neg different⟩
  · refine ⟨rfl, ?_, configs⟩
    intro row different
    simp only [List.mem_append, List.mem_singleton]
    constructor
    · rintro (member | isNew)
      · exact member
      · rw [isNew] at different
        exact absurd rfl different
    · exact .inl

theorem keepsRowsOfOthers_recordCanceled (rows : Rows) :
    KeepsRowsOfOthers id.text rows
      (recordCanceled statements tasks id rows) := by
  unfold recordCanceled
  cases statements.recorded id with
  | none => exact ⟨rfl, fun _ _ => Iff.rfl, rfl⟩
  | some now =>
      simp only
      cases stored : rows.recordTask id.text
          (TaskRegistry.conversationOf tasks id)
          (TaskRegistry.stateStr .canceled) now with
      | none => exact ⟨rfl, fun _ _ => Iff.rfl, rfl⟩
      | some written => exact keepsRowsOfOthers_recordTask stored

/-- The rows of Tasks that are not listed, after the loop. -/
theorem cancelTargets_rows (rows : Rows) :
    ∃ written,
      (cancelTargets statements targets tasks (some rows)).2.2 =
          some written ∧
        written.conversations = rows.conversations ∧
        written.pushConfigs = rows.pushConfigs ∧
        ∀ row : TaskRow, (∀ id, id ∈ targets → id.text ≠ row.taskId) →
          (row ∈ written.tasks ↔ row ∈ rows.tasks) := by
  induction targets generalizing tasks rows with
  | nil => exact ⟨rows, rfl, rfl, rfl, fun _ _ => Iff.rfl⟩
  | cons target rest inductionHypothesis =>
      rw [cancelTargets]
      cases tasks.cancel target with
      | error error =>
          obtain ⟨written, isWritten, conversations, configs, kept⟩ :=
            @inductionHypothesis tasks rows
          refine ⟨written, isWritten, conversations, configs, ?_⟩
          intro row unlisted
          exact kept row fun id member =>
            unlisted id (List.mem_cons_of_mem _ member)
      | ok canceled =>
          have first := @keepsRowsOfOthers_recordCanceled statements canceled
            target rows
          obtain ⟨written, isWritten, conversations, configs, kept⟩ :=
            @inductionHypothesis canceled
              (recordCanceled statements canceled target rows)
          refine ⟨written, isWritten,
            conversations.trans first.conversations,
            configs.trans first.pushConfigs, ?_⟩
          intro row unlisted
          have different := unlisted target List.mem_cons_self
          rw [kept row fun id member =>
            unlisted id (List.mem_cons_of_mem _ member)]
          exact first.tasks row (Ne.symm different)

theorem cancelTargets_noRows :
    (cancelTargets statements targets tasks none).2.2 = none := by
  induction targets generalizing tasks with
  | nil => rfl
  | cons target rest inductionHypothesis =>
      rw [cancelTargets]
      cases tasks.cancel target with
      | error error => exact inductionHypothesis
      | ok canceled => exact inductionHypothesis

/-- A listed Task is one of the key. -/
theorem isTaskOf_of_target
    (listed : id ∈ Resetting.targets tasks key) :
    IsTaskOf tasks key id.text := by
  obtain ⟨binding, found, isKey⟩ :=
    Option.map_eq_some_iff.mp (conversation_of_target listed)
  exact ⟨id, binding, rfl, found, isKey⟩

/-- The loop, and the deletion of the conversation's row after it, keep the
rows of others. -/
theorem keepsRowsBut_of_loop
    {rows written : Rows}
    (conversations : written.conversations = rows.conversations)
    (configs : written.pushConfigs = rows.pushConfigs)
    (kept : ∀ row : TaskRow,
      (∀ id, id ∈ Resetting.targets tasks key → id.text ≠ row.taskId) →
        (row ∈ written.tasks ↔ row ∈ rows.tasks)) :
    KeepsRowsBut tasks key rows written ∧
      KeepsRowsBut tasks key rows (written.deleteConversation key) := by
  have keptRow : ∀ row : TaskRow, ¬ IsTaskOf tasks key row.taskId →
      (row ∈ written.tasks ↔ row ∈ rows.tasks) := by
    intro row isOther
    apply kept row
    intro id listed same
    exact isOther (same ▸ isTaskOf_of_target listed)
  refine ⟨⟨fun row _ => by rw [conversations], fun row _ => keptRow row,
    fun row _ _ => by rw [configs]⟩, ⟨?_, ?_, ?_⟩⟩
  · intro row different
    simp [Rows.conversations_deleteConversation, conversations, different]
  · intro row different isOther
    rw [← keptRow row isOther, Rows.mem_tasks_deleteConversation]
    exact and_iff_left fun _ => different
  · intro row noTask isOther
    rw [Rows.mem_deleteConversation, configs, and_iff_left]
    rintro ⟨known, task, member, isTask, isKey⟩
    rw [← isTask] at isOther
    have knew : rows.hasConversation key = true := by
      rw [Rows.hasConversation, ← conversations]
      exact known
    exact noTask
      ⟨knew, task, (keptRow task isOther).mp member, isTask, isKey⟩

/-! ## The frame -/

/-- What a reset of `key` has to leave alone. -/
structure KeepsOthers (key : String) (before after : ServeState) :
    Prop where
  tasks : ∀ id,
    (before.tasks.bindings id).map TaskBinding.conversationId ≠ some key →
      after.tasks.bindings id = before.tasks.bindings id
  order : after.tasks.order = before.tasks.order
  conversations : ∀ other, other ≠ key →
    after.conversations.get other = before.conversations.get other
  objects : after.conversations.objects = before.conversations.objects
  noRows : before.rows = none → after.rows = none
  rows : ∀ rows, before.rows = some rows → ∃ kept, after.rows = some kept ∧
    KeepsRowsBut before.tasks key rows kept
  sessions : after.sessions = before.sessions
  pushRegistry : after.pushRegistry = before.pushRegistry
  pushTx : after.pushTx = before.pushTx

theorem cancelAll_order :
    (cancelAll targets tasks).2.order = tasks.order := by
  induction targets generalizing tasks with
  | nil => rfl
  | cons target rest inductionHypothesis =>
      rw [cancelAll]
      cases outcome : tasks.cancel target with
      | error error => exact inductionHypothesis
      | ok canceled =>
          obtain ⟨binding, _, _, rfl⟩ :=
            TaskRegistry.cancel_ok_iff.mp outcome
          exact inductionHypothesis

theorem keepsOthers_handler (statements : ResetStatements)
    (state : ServeState) (key : String) :
    KeepsOthers key state
      (handleConversationReset statements state key).2 := by
  obtain ⟨_, sameTasks⟩ :=
    @cancelTargets_eq statements (Resetting.targets state.tasks key)
      state.tasks state.rows
  have tasksKept : ∀ id,
      (state.tasks.bindings id).map TaskBinding.conversationId ≠ some key →
        (cancelTargets statements (Resetting.targets state.tasks key)
          state.tasks state.rows).2.1.bindings id =
            state.tasks.bindings id := by
    intro id isOther
    rw [sameTasks]
    apply cancelAll_other
    intro listed
    exact isOther (conversation_of_target listed)
  have orderKept :
      (cancelTargets statements (Resetting.targets state.tasks key)
        state.tasks state.rows).2.1.order = state.tasks.order := by
    rw [sameTasks, cancelAll_order]
  have noRows : state.rows = none →
      (cancelTargets statements (Resetting.targets state.tasks key)
        state.tasks state.rows).2.2 = none := by
    intro isNone
    rw [isNone]
    exact cancelTargets_noRows
  have rowsKept : ∀ rows, state.rows = some rows → ∃ written,
      (cancelTargets statements (Resetting.targets state.tasks key)
        state.tasks state.rows).2.2 = some written ∧
          KeepsRowsBut state.tasks key rows written ∧
            KeepsRowsBut state.tasks key rows
              (written.deleteConversation key) := by
    intro rows isRows
    rw [isRows]
    obtain ⟨written, isWritten, conversations, configs, kept⟩ :=
      @cancelTargets_rows statements state.tasks
        (Resetting.targets state.tasks key) rows
    exact ⟨written, isWritten,
      keepsRowsBut_of_loop conversations configs kept⟩
  unfold handleConversationReset
  cases (state.conversations.get key).bind state.conversations.objects with
  | none =>
      refine ⟨tasksKept, orderKept, fun _ _ => rfl, rfl, noRows, ?_, rfl, rfl,
        rfl⟩
      intro rows isRows
      obtain ⟨written, isWritten, keeps, _⟩ := rowsKept rows isRows
      exact ⟨written, isWritten, keeps⟩
  | some conversation =>
      refine ⟨tasksKept, orderKept, ?_, rfl, ?_, ?_, rfl, rfl, rfl⟩
      · intro other different
        exact ConversationMap.remove_get_other different
      · intro isNone
        simp [noRows isNone]
      · intro rows isRows
        obtain ⟨written, isWritten, keeps, deleted⟩ := rowsKept rows isRows
        by_cases rowDeleted : statements.rowDeleted = true
        · exact ⟨written.deleteConversation key,
            by simp [rowDeleted, isWritten], deleted⟩
        · exact ⟨written, by simp [rowDeleted, isWritten], keeps⟩

/-! ## Nothing to do -/

/-- A conversation is bound to the key. -/
def Bound (state : ServeState) (key : String) : Prop :=
  ((state.conversations.get key).bind
    state.conversations.objects).isSome = true

/-- The answer of a reset that finds nothing. -/
def nothingDone : ResetOutcome :=
  { cleared := false, cancelledTaskIds := [], told := none }

theorem handler_of_nothing
    (unbound : ¬ Bound state key)
    (noTargets : Resetting.targets state.tasks key = []) :
    handleConversationReset statements state key = (nothingDone, state) := by
  have absent : (state.conversations.get key).bind
      state.conversations.objects = none := by
    simpa [Bound] using unbound
  simp [handleConversationReset, absent, noTargets, cancelTargets,
    nothingDone]

/-- The first target is canceled. -/
theorem cancelTargets_ne_nil
    (rows : Option Rows) (listed : Resetting.targets tasks key ≠ []) :
    (cancelTargets statements (Resetting.targets tasks key) tasks rows).1 ≠
      [] := by
  rw [(cancelTargets_eq tasks rows).1]
  rw [targets_eq] at listed ⊢
  cases selected : (tasks.order.take 1000).filter (tasks.isActive key) with
  | nil => exact absurd selected listed
  | cons id rest =>
      have member : id ∈ (tasks.order.take 1000).filter
          (tasks.isActive key) := by
        rw [selected]
        exact List.mem_cons_self
      obtain ⟨binding, found, _, unfinished⟩ :=
        TaskRegistry.isActive_iff.mp (List.mem_filter.mp member).2
      have accepted := TaskRegistry.cancel_ok_iff.mpr
        ⟨binding, found, unfinished, rfl⟩
      simp [cancelAll, accepted]

/-! ## A second reset -/

theorem isActive_cancel
    {canceled : TaskRegistry} {target : TaskId}
    (accepted : tasks.cancel target = .ok canceled) :
    canceled.isActive key target = false ∧
      (tasks.isActive key id = false → canceled.isActive key id = false) := by
  obtain ⟨binding, _, _, rfl⟩ := TaskRegistry.cancel_ok_iff.mp accepted
  have finished : (tasks.put target
      { binding with state := .canceled }).isActive key target = false := by
    simp [TaskRegistry.isActive, TaskState.isTerminal]
  refine ⟨finished, ?_⟩
  intro inactive
  by_cases same : id = target
  · rw [same]
    exact finished
  · rw [TaskRegistry.isActive, TaskRegistry.put_other same]
    exact inactive

theorem cancelAll_inactive
    (inactive : tasks.isActive key id = false) :
    (cancelAll targets tasks).2.isActive key id = false := by
  induction targets generalizing tasks with
  | nil => exact inactive
  | cons target rest inductionHypothesis =>
      rw [cancelAll]
      cases outcome : tasks.cancel target with
      | error error => exact inductionHypothesis inactive
      | ok canceled =>
          exact inductionHypothesis ((isActive_cancel outcome).2 inactive)

/-- No target is unfinished afterwards. -/
theorem cancelAll_target_inactive (listed : id ∈ targets) :
    (cancelAll targets tasks).2.isActive key id = false := by
  induction targets generalizing tasks with
  | nil => cases listed
  | cons target rest inductionHypothesis =>
      rw [cancelAll]
      cases outcome : tasks.cancel target with
      | ok canceled =>
          rcases List.mem_cons.mp listed with rfl | inRest
          · exact cancelAll_inactive (@isActive_cancel key _ id _ _ outcome).1
          · exact inductionHypothesis inRest
      | error error =>
          rcases List.mem_cons.mp listed with rfl | inRest
          · apply cancelAll_inactive
            -- The Task is unknown or finished, or it would have been canceled.
            rw [← Bool.not_eq_true]
            intro active
            obtain ⟨binding, found, _, unfinished⟩ :=
              TaskRegistry.isActive_iff.mp active
            rw [TaskRegistry.cancel_ok_iff.mpr
              ⟨binding, found, unfinished, rfl⟩] at outcome
            cases outcome
          · exact inductionHypothesis inRest

theorem targets_cancelAll :
    Resetting.targets
        (cancelAll (Resetting.targets tasks key) tasks).2 key = [] := by
  rw [targets_eq, cancelAll_order, List.filter_eq_nil_iff]
  intro id member
  rw [Bool.not_eq_true]
  by_cases active : tasks.isActive key id = true
  · apply cancelAll_target_inactive
    rw [targets_eq]
    exact List.mem_filter.mpr ⟨member, active⟩
  · apply cancelAll_inactive
    simpa using active

theorem handler_again (statements again : ResetStatements)
    (state : ServeState) (key : String) :
    handleConversationReset again
        (handleConversationReset statements state key).2 key =
      (nothingDone, (handleConversationReset statements state key).2) := by
  have sameTasks :
      (handleConversationReset statements state key).2.tasks =
        (cancelAll (Resetting.targets state.tasks key) state.tasks).2 :=
    handler_cancels.2
  apply handler_of_nothing
  · unfold handleConversationReset Bound
    cases bound :
        (state.conversations.get key).bind state.conversations.objects with
    | none => simp [bound]
    | some conversation => simp [ConversationMap.remove_get_self]
  · rw [sameTasks]
    exact targets_cancelAll

/-! ## The contract -/

/-- A reset keeps what is not its key's, does nothing to a key without a
conversation, and does nothing a second time. -/
structure ResetIsIdempotent (state : ServeState) (key : String) : Prop where
  frame : ∀ statements,
    KeepsOthers key state (handleConversationReset statements state key).2
  unbound : ¬ Bound state key → ∀ statements,
    handleConversationReset statements state key = (nothingDone, state)
  again : ∀ statements more,
    handleConversationReset more
        (handleConversationReset statements state key).2 key =
      (nothingDone, (handleConversationReset statements state key).2)

/-- The contract holds exactly when a conversation is bound to the key, or no
unfinished Task of the key is among the first thousand. -/
theorem reset_idempotent_iff (state : ServeState) (key : String) :
    ResetIsIdempotent state key ↔
      Bound state key ∨
        ∀ id, id ∈ state.tasks.order.take 1000 →
          state.tasks.isActive key id = false := by
  have noTargets : Resetting.targets state.tasks key = [] ↔
      ∀ id, id ∈ state.tasks.order.take 1000 →
        state.tasks.isActive key id = false := by
    rw [targets_eq, List.filter_eq_nil_iff]
    simp
  rw [← noTargets]
  constructor
  · intro contract
    by_cases bound : Bound state key
    · exact .inl bound
    · right
      by_contra listed
      have done := contract.unbound bound ⟨fun _ => none, true⟩
      apply @cancelTargets_ne_nil ⟨fun _ => none, true⟩ key state.tasks
        state.rows listed
      have answer := congrArg (fun result => result.1.cancelledTaskIds) done
      have absent : (state.conversations.get key).bind
          state.conversations.objects = none := by
        simpa [Bound] using bound
      simpa [handleConversationReset, absent, nothingDone] using answer
  · intro given
    refine ⟨fun statements => keepsOthers_handler statements state key, ?_,
      fun statements more => handler_again statements more state key⟩
    intro unbound statements
    rcases given with bound | none
    · exact absurd bound unbound
    · exact handler_of_nothing unbound none

/-- The sweep has removed the conversation, and its Task is still working. -/
def sweptConversation : ServeState :=
  { cfg := partitioned
    acp := true
    sessions := ["s-1"]
    conversations :=
      ((ConversationMap.new 4 600).insert "h/t" "s-1" 0).remove "h/t"
    tasks := TaskRegistry.empty.create ⟨"t-1"⟩ "h/t" "s-1"
    rows := none
    pushRegistry := .empty
    pushTx := none }

/-- The reset of a key without a conversation cancels its Task. -/
theorem swept_conversation_cancels_task :
    (∀ statements,
      (handleConversationReset statements sweptConversation "h/t").1 =
        { cleared := false, cancelledTaskIds := [⟨"t-1"⟩], told := none }) ∧
      ¬ ∀ state key, ResetIsIdempotent state key := by
  have answers : ∀ statements,
      (handleConversationReset statements sweptConversation "h/t").1 =
        { cleared := false, cancelledTaskIds := [⟨"t-1"⟩], told := none } :=
    fun statements => rfl
  refine ⟨answers, ?_⟩
  intro contract
  have unbound : ¬ Bound sweptConversation "h/t" :=
    fun bound => Bool.false_ne_true bound
  have done := (contract sweptConversation "h/t").unbound unbound
    ⟨fun _ => none, true⟩
  have answer := answers ⟨fun _ => none, true⟩
  rw [done] at answer
  simp [nothingDone] at answer

end Http

end A2AShim
