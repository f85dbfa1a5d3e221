import A2AShim.Serve.PushMirror

/-!
# What a second insertion of a conversation takes with it

Every statement keeps the constraints of the schema, so the row of a
conversation that is inserted for the first time takes nothing with it.  A row
that is replaced takes the rows of its tasks.
-/

namespace A2AShim

namespace Rows

/-- The constraints of the schema: primary keys, and references that find
their row. -/
structure Intact (rows : Rows) : Prop where
  conversationIds : (rows.conversations.map (·.conversationId)).Nodup
  taskIds : (rows.tasks.map (·.taskId)).Nodup
  configIds : (rows.pushConfigs.map (·.configId)).Nodup
  conversationOf : ∀ task, task ∈ rows.tasks →
    ∃ conversation, conversation ∈ rows.conversations ∧
      conversation.conversationId = task.conversationId
  taskOf : ∀ config, config ∈ rows.pushConfigs →
    ∃ task, task ∈ rows.tasks ∧ task.taskId = config.taskId

theorem intact_empty : empty.Intact where
  conversationIds := List.nodup_nil
  taskIds := List.nodup_nil
  configIds := List.nodup_nil
  conversationOf := nofun
  taskOf := nofun

variable {rows written : Rows} {conversationId taskId : String}

/-- The keys of a table after one row has replaced the row with its key. -/
theorem nodup_replace
    {α : Type} {key : α → String} {table : List α} {row : α}
    (distinct : (table.map key).Nodup) :
    ((table.filter (fun other => key other != key row) ++ [row]).map
      key).Nodup := by
  rw [List.map_append, List.nodup_append]
  refine ⟨(List.filter_sublist.map key).nodup distinct, by simp, ?_⟩
  intro left inTable right isRow
  rcases List.mem_map.mp inTable with ⟨other, kept, rfl⟩
  have differs := (List.mem_filter.mp kept).2
  rw [List.map_singleton, List.mem_singleton] at isRow
  rw [isRow]
  simpa using differs

/-! ## The statements keep the constraints -/

/-- A row that refers to the key goes with its conversation. -/
theorem Intact.not_of_kept (intact : rows.Intact)
    {conversationId : String} {task : TaskRow}
    (kept : task ∈ (rows.deleteConversation conversationId).tasks) :
    task.conversationId ≠ conversationId := by
  have ⟨isTask, others⟩ := mem_tasks_deleteConversation.mp kept
  intro same
  obtain ⟨conversation, isRow, refers⟩ := intact.conversationOf task isTask
  exact others
    (hasConversation_iff.mpr ⟨conversation, isRow, refers.trans same⟩) same

theorem sublist_tasks (rows : Rows) (conversationId : String) :
    (rows.deleteConversation conversationId).tasks.Sublist rows.tasks := by
  unfold deleteConversation
  split
  · exact List.filter_sublist
  · exact List.Sublist.refl _

theorem sublist_pushConfigs (rows : Rows) (conversationId : String) :
    (rows.deleteConversation conversationId).pushConfigs.Sublist
      rows.pushConfigs := by
  unfold deleteConversation
  split
  · exact List.filter_sublist
  · exact List.Sublist.refl _

theorem Intact.deleteConversation (intact : rows.Intact)
    (conversationId : String) :
    (rows.deleteConversation conversationId).Intact where
  conversationIds := by
    rw [conversations_deleteConversation]
    exact (List.filter_sublist.map _).nodup intact.conversationIds
  taskIds :=
    ((sublist_tasks rows conversationId).map _).nodup intact.taskIds
  configIds :=
    ((sublist_pushConfigs rows conversationId).map _).nodup intact.configIds
  conversationOf := by
    intro task kept
    have isOther := intact.not_of_kept kept
    have isTask := (mem_tasks_deleteConversation.mp kept).1
    obtain ⟨conversation, isRow, same⟩ := intact.conversationOf task isTask
    refine ⟨conversation, ?_, same⟩
    rw [conversations_deleteConversation, List.mem_filter, bne_iff_ne, same]
    exact ⟨isRow, isOther⟩
  taskOf := by
    intro config kept
    obtain ⟨isConfig, noTask⟩ := mem_deleteConversation.mp kept
    obtain ⟨task, isTask, same⟩ := intact.taskOf config isConfig
    refine ⟨task, mem_tasks_deleteConversation.mpr ⟨isTask, ?_⟩, same⟩
    intro known isKey
    exact noTask ⟨known, task, isTask, same, isKey⟩

theorem Intact.insertConversation (intact : rows.Intact)
    (conversationId acpSessionId cwd callerId : String) (now : Nat) :
    (rows.insertConversation conversationId acpSessionId cwd callerId
      now).Intact := by
  have others := intact.deleteConversation conversationId
  exact
    { others with
      conversationIds := by
        simp only [Rows.insertConversation, conversations_deleteConversation]
        exact
          @nodup_replace _ ConversationRow.conversationId _
            ⟨conversationId, acpSessionId, cwd, callerId, now, now⟩
            intact.conversationIds
      conversationOf := by
        intro task kept
        obtain ⟨conversation, isRow, same⟩ := others.conversationOf task kept
        exact ⟨conversation, List.mem_append_left _ isRow, same⟩ }

theorem Intact.recordTask (intact : rows.Intact)
    {state : String} {now : Nat}
    (stored : rows.recordTask taskId conversationId state now =
      some written) : written.Intact := by
  obtain ⟨terminalAt, _, ⟨_, rfl⟩ | ⟨unknown, parent, rfl⟩⟩ :=
    recordTask_cases stored
  · -- An update changes neither the ids nor the conversations of the tasks.
    refine ⟨intact.conversationIds, ?_, intact.configIds, ?_, ?_⟩
    · rw [List.map_map]
      refine (List.map_congr_left ?_).symm ▸ intact.taskIds
      intro task _
      simp only [Function.comp_apply]
      split
      · rfl
      · rfl
    · intro task updated
      obtain ⟨before, isTask, rfl⟩ := List.mem_map.mp updated
      obtain ⟨conversation, isRow, same⟩ := intact.conversationOf before isTask
      refine ⟨conversation, isRow, ?_⟩
      rw [same]
      split
      · rfl
      · rfl
    · intro config isConfig
      obtain ⟨task, isTask, same⟩ := intact.taskOf config isConfig
      refine ⟨_, List.mem_map_of_mem isTask, ?_⟩
      rw [← same]
      split
      · rfl
      · rfl
  · refine ⟨intact.conversationIds, ?_, intact.configIds, ?_, ?_⟩
    · rw [List.map_append, List.nodup_append]
      refine ⟨intact.taskIds, by simp, ?_⟩
      intro left isKnown right isNew same
      rw [List.map_singleton, List.mem_singleton] at isNew
      obtain ⟨task, isTask, rfl⟩ := List.mem_map.mp isKnown
      exact unknown task isTask (same.trans isNew)
    · intro task isTask
      rcases List.mem_append.mp isTask with old | new
      · exact intact.conversationOf task old
      · obtain rfl := List.mem_singleton.mp new
        exact parent
    · intro config isConfig
      obtain ⟨task, isTask, same⟩ := intact.taskOf config isConfig
      exact ⟨task, List.mem_append_left _ isTask, same⟩

theorem Intact.insertPushConfig (intact : rows.Intact)
    {row : PushConfigRow}
    (stored : rows.insertPushConfig row = some written) :
    written.Intact := by
  unfold Rows.insertPushConfig at stored
  split at stored
  · rename_i hasTask
    cases stored
    refine
      { intact with
        configIds := nodup_replace intact.configIds
        taskOf := ?_ }
    intro config isConfig
    rcases List.mem_append.mp isConfig with old | new
    · exact intact.taskOf config (List.mem_filter.mp old).1
    · obtain ⟨task, isTask, same⟩ := List.any_eq_true.mp hasTask
      rw [List.mem_singleton.mp new]
      exact ⟨task, isTask, beq_iff_eq.mp same⟩
  · cases stored

theorem Intact.deletePushConfig (intact : rows.Intact) (configId : String) :
    (rows.deletePushConfig configId).Intact :=
  { intact with
    configIds := (List.filter_sublist.map _).nodup intact.configIds
    taskOf := fun config kept =>
      intact.taskOf config (List.mem_filter.mp kept).1 }

theorem Intact.execute (intact : rows.Intact) (statement : Statement)
    (now : Nat) : (statement.execute now rows).Intact := by
  cases statement with
  | insertConversation conversationId acpSessionId cwd callerId =>
      exact intact.insertConversation conversationId acpSessionId cwd callerId
        now
  | deleteConversation conversationId =>
      exact intact.deleteConversation conversationId
  | recordTask taskId conversationId state =>
      simp only [Statement.execute]
      cases stored : rows.recordTask taskId conversationId state now with
      | none => exact intact
      | some written => exact intact.recordTask stored

theorem Intact.deleteConversations (intact : rows.Intact)
    (keys : List String) :
    (keys.foldl Rows.deleteConversation rows).Intact := by
  induction keys generalizing rows with
  | nil => exact intact
  | cons first rest inductionHypothesis =>
      exact inductionHypothesis (intact.deleteConversation first)

end Rows

namespace PushStore

open Machine

/-- The constraints hold of the table, if there is one. -/
def Intact (state : PushStore) : Prop :=
  ∀ rows, state.configs.rows = some rows → rows.Intact

theorem intact_step
    {source target : PushStore} {action : Action}
    (intact : source.Intact) (taken : step action source = some target) :
    target.Intact := by
  cases action with
  | insert name config now =>
      simp only [step] at taken
      split at taken
      · cases taken
      · unfold PushConfigs.insertRow at taken
        cases persisted : source.configs.rows with
        | none =>
            simp only [persisted] at taken
            cases taken
            intro rows isRows
            rw [persisted] at isRows
            cases isRows
        | some rows =>
            cases stored : rows.insertPushConfig (config.toRow now) with
            | none =>
                simp only [persisted, stored, Option.map_none] at taken
                cases taken
                exact intact
            | some written =>
                simp only [persisted, stored, Option.map_some] at taken
                cases taken
                intro rows' isRows
                cases isRows
                exact (intact rows persisted).insertPushConfig stored
  | delete name configId =>
      simp only [step] at taken
      split at taken
      · cases taken
      · cases taken
        intro rows isRows
        obtain ⟨before, persisted, rfl⟩ := Option.map_eq_some_iff.mp isRows
        exact (intact before persisted).deletePushConfig configId
  | finish name =>
      obtain ⟨write, _, rfl⟩ := Option.map_eq_some_iff.mp taken
      cases write with
      | insert config => exact intact
      | delete configId => exact intact
  | execute statement now =>
      cases taken
      intro rows isRows
      obtain ⟨before, persisted, rfl⟩ := Option.map_eq_some_iff.mp isRows
      exact (intact before persisted).execute statement now
  | restart maxActive idleWindow loads =>
      obtain ⟨before, persisted, restarted⟩ :=
        Option.bind_eq_some_iff.mp taken
      obtain ⟨recovered, loaded, finished⟩ :=
        Option.bind_eq_some_iff.mp restarted
      split at finished
      · cases finished
        intro rows isRows
        cases isRows
        rw [Recovery.rows_of_run (run_of_exec loaded)]
        exact (intact before persisted).deleteConversations _
      · cases finished

/-- The constraints hold throughout, whatever is written and however often the
server restarts. -/
theorem intact_of_run
    {trace : List Action} {state : PushStore}
    (run : Run step free start trace state) : state.Intact := by
  refine run.invariant Intact ?_ ?_
  · intro rows isRows
    cases isRows
    exact Rows.intact_empty
  · intro source action target intact _ taken
    exact intact_step intact taken

end PushStore

/-! ## Insertions -/

/-- The rows of tasks and of push configurations are what they were. -/
structure KeepsHistory (before after : Rows) : Prop where
  tasks : after.tasks = before.tasks
  pushConfigs : after.pushConfigs = before.pushConfigs

namespace Rows

variable {rows : Rows} {conversationId acpSessionId cwd callerId : String}
variable {now : Nat}

/-- The rows of a conversation that has no row itself stay. -/
theorem keepsHistory_of_unknown
    (unknown : rows.hasConversation conversationId = false) :
    KeepsHistory rows
      (rows.insertConversation conversationId acpSessionId cwd callerId
        now) := by
  have same : rows.deleteConversation conversationId = rows := by
    unfold deleteConversation
    rw [unknown]
    exact if_neg Bool.false_ne_true
  refine ⟨?_, ?_⟩
  · simp only [insertConversation, same]
  · simp only [insertConversation, same]

theorem keepsHistory_of_no_task
    (noTask : ∀ task, task ∈ rows.tasks →
      task.conversationId ≠ conversationId) :
    KeepsHistory rows
      (rows.insertConversation conversationId acpSessionId cwd callerId
        now) := by
  cases known : rows.hasConversation conversationId with
  | false => exact keepsHistory_of_unknown known
  | true =>
      have none : (rows.tasks.filter fun row =>
          row.conversationId == conversationId) = [] := by
        rw [List.filter_eq_nil_iff]
        intro task isTask
        simpa using noTask task isTask
      refine ⟨?_, ?_⟩
      · simp only [insertConversation, deleteConversation, known, if_true]
        rw [List.filter_eq_self]
        intro task isTask
        simpa using noTask task isTask
      · simp only [insertConversation, deleteConversation, known, if_true,
          none]
        simp

/-- The row that is replaced takes every task of the conversation along. -/
theorem no_task_of_keepsHistory
    (known : rows.hasConversation conversationId = true)
    (keeps : KeepsHistory rows
      (rows.insertConversation conversationId acpSessionId cwd callerId
        now)) :
    ∀ task, task ∈ rows.tasks → task.conversationId ≠ conversationId := by
  intro task isTask
  have kept : task ∈ (rows.insertConversation conversationId acpSessionId
      cwd callerId now).tasks := by
    rw [keeps.tasks]
    exact isTask
  exact (mem_tasks_deleteConversation.mp kept).2 known

/-- With the constraints of the schema the tasks alone decide: none refers to
a conversation that has no row. -/
theorem Intact.keepsHistory_iff (intact : rows.Intact) :
    KeepsHistory rows
        (rows.insertConversation conversationId acpSessionId cwd callerId
          now) ↔
      ∀ task, task ∈ rows.tasks →
        task.conversationId ≠ conversationId := by
  refine ⟨?_, keepsHistory_of_no_task⟩
  intro keeps task isTask same
  obtain ⟨conversation, isRow, refers⟩ := intact.conversationOf task isTask
  have known := hasConversation_iff.mpr
    ⟨conversation, isRow, refers.trans same⟩
  exact no_task_of_keepsHistory known keeps task isTask same

/-- An insertion keeps the history exactly when the conversation has no row,
or no task belongs to it. -/
theorem insertion_keeps_history_iff
    (rows : Rows) (conversationId acpSessionId cwd callerId : String)
    (now : Nat) :
    KeepsHistory rows
        (rows.insertConversation conversationId acpSessionId cwd callerId
          now) ↔
      rows.hasConversation conversationId = false ∨
        ∀ task, task ∈ rows.tasks →
          task.conversationId ≠ conversationId := by
  constructor
  · intro keeps
    cases known : rows.hasConversation conversationId with
    | false => exact .inl rfl
    | true => exact .inr (no_task_of_keepsHistory known keeps)
  · rintro (unknown | noTask)
    · exact keepsHistory_of_unknown unknown
    · exact keepsHistory_of_no_task noTask

def conversationRow : ConversationRow :=
  ⟨"h/t", "s1", "/tmp", "anonymous", 1, 1⟩

/-- A conversation, a task of it and a configuration of that task. -/
def recorded : Rows :=
  { conversations := [conversationRow]
    tasks := [⟨"t1", "h/t", "completed", 2, some 3⟩]
    pushConfigs := [⟨"c1", "t1", "http://127.0.0.1/", none, none, none, none,
      4⟩] }

/-- These rows are stored, the map does not take the conversation over at the
restart, and the next message inserts it again. -/
theorem reinserted_conversation_loses_history :
    (∃ trace state,
      Machine.Run PushStore.step Machine.free PushStore.start trace state ∧
        state.configs.rows = some recorded) ∧
      (recorded.insertConversation "h/t" "s2" "/tmp" "anonymous" 6).tasks =
        [] ∧
      (recorded.insertConversation "h/t" "s2" "/tmp" "anonymous"
        6).pushConfigs = [] ∧
      ¬ ∀ (rows : Rows)
          (conversationId acpSessionId cwd callerId : String) (now : Nat),
        KeepsHistory rows
          (rows.insertConversation conversationId acpSessionId cwd callerId
            now) := by
  refine ⟨?_, by decide, by decide, ?_⟩
  · exact
      ⟨[.execute (.insertConversation "h/t" "s1" "/tmp" "anonymous") 1,
          .execute (.recordTask "t1" "h/t" "submitted") 2,
          .execute (.recordTask "t1" "h/t" "completed") 3,
          .insert 0 ⟨"c1", "t1", "http://127.0.0.1/", none, none, none, none⟩
            4,
          .finish 0, .restart 0 0 [⟨conversationRow, .accepted, 5⟩]],
        _, Machine.run_of_exec rfl, rfl⟩
  · intro keeps
    have lost := (keeps recorded "h/t" "s2" "/tmp" "anonymous" 6).tasks
    revert lost
    decide

end Rows

end A2AShim
