import Mathlib.Logic.Basic

/-!
# Persisted rows

The three tables, and the statements that write them.  Foreign keys are on:
deleting a conversation deletes its tasks and their push configurations, and
so does replacing one, since `INSERT OR REPLACE` deletes the old row first.
-/

namespace A2AShim

structure ConversationRow where
  conversationId : String
  acpSessionId : String
  cwd : String
  callerId : String
  createdAt : Nat
  lastUsedAt : Nat
  deriving DecidableEq, Repr

structure TaskRow where
  taskId : String
  conversationId : String
  state : String
  createdAt : Nat
  terminalAt : Option Nat
  deriving DecidableEq, Repr

structure PushConfigRow where
  configId : String
  taskId : String
  url : String
  token : Option String
  authScheme : Option String
  authCredentials : Option String
  tenant : Option String
  createdAt : Nat
  deriving DecidableEq, Repr

structure Rows where
  conversations : List ConversationRow
  tasks : List TaskRow
  pushConfigs : List PushConfigRow
  deriving DecidableEq, Repr

namespace Rows

/-- There is a row for the conversation. -/
def hasConversation (rows : Rows) (conversationId : String) : Bool :=
  rows.conversations.any fun row => row.conversationId == conversationId

/-- Only a row that is deleted takes others with it. -/
def deleteConversation (rows : Rows) (conversationId : String) : Rows :=
  if rows.hasConversation conversationId then
    let gone := rows.tasks.filter fun row =>
      row.conversationId == conversationId
    { conversations := rows.conversations.filter fun row =>
        row.conversationId != conversationId
      tasks := rows.tasks.filter fun row =>
        row.conversationId != conversationId
      pushConfigs := rows.pushConfigs.filter fun row =>
        !gone.any fun task => task.taskId == row.taskId }
  else
    rows

def insertConversation (rows : Rows)
    (conversationId acpSessionId cwd callerId : String) (now : Nat) : Rows :=
  let others := rows.deleteConversation conversationId
  { others with
    conversations :=
      others.conversations ++
        [{ conversationId, acpSessionId, cwd, callerId
           createdAt := now, lastUsedAt := now }] }

/-- The statement fails on a conversation that has no row. -/
def recordTask (rows : Rows) (taskId conversationId state : String)
    (now : Nat) : Option Rows :=
  let terminalAt :=
    if state = "completed" ∨ state = "failed" ∨ state = "canceled" then
      some now
    else
      none
  if rows.tasks.any (fun row => row.taskId == taskId) then
    some { rows with
      tasks := rows.tasks.map fun row =>
        if row.taskId = taskId then { row with state, terminalAt } else row }
  else if rows.hasConversation conversationId then
    some { rows with
      tasks :=
        rows.tasks ++
          [{ taskId, conversationId, state, createdAt := now, terminalAt }] }
  else
    none

variable {rows written : Rows} {taskId conversationId state : String}
variable {now : Nat}

theorem hasConversation_iff :
    rows.hasConversation conversationId = true ↔
      ∃ row, row ∈ rows.conversations ∧
        row.conversationId = conversationId := by
  simp [hasConversation]

theorem not_hasConversation_iff :
    rows.hasConversation conversationId = false ↔
      ∀ row, row ∈ rows.conversations →
        row.conversationId ≠ conversationId := by
  simp [hasConversation]

theorem conversations_deleteConversation :
    (rows.deleteConversation conversationId).conversations =
      rows.conversations.filter fun row =>
        row.conversationId != conversationId := by
  unfold deleteConversation
  cases known : rows.hasConversation conversationId with
  | true => rfl
  | false =>
      symm
      apply List.filter_eq_self.mpr
      intro row member
      exact bne_iff_ne.mpr (not_hasConversation_iff.mp known row member)

theorem mem_tasks_deleteConversation {row : TaskRow} :
    row ∈ (rows.deleteConversation conversationId).tasks ↔
      row ∈ rows.tasks ∧
        (rows.hasConversation conversationId = true →
          row.conversationId ≠ conversationId) := by
  unfold deleteConversation
  cases rows.hasConversation conversationId with
  | true => simp
  | false => simp

theorem isSome_terminalAt (ended : Prop) [Decidable ended] (now : Nat) :
    (if ended then some now else none).isSome = decide ended := by
  by_cases isEnded : ended <;> simp [isEnded]

/-- The statement updates the rows of a Task it knows, and appends one for a
new Task of a conversation it knows. -/
theorem recordTask_cases
    (stored :
      rows.recordTask taskId conversationId state now = some written) :
    ∃ terminalAt : Option Nat,
      terminalAt.isSome =
          decide (state = "completed" ∨ state = "failed" ∨
            state = "canceled") ∧
        (((∃ row, row ∈ rows.tasks ∧ row.taskId = taskId) ∧
            written = { rows with
              tasks := rows.tasks.map fun row =>
                if row.taskId = taskId then { row with state, terminalAt }
                else row }) ∨
          ((∀ row, row ∈ rows.tasks → row.taskId ≠ taskId) ∧
            (∃ row, row ∈ rows.conversations ∧
              row.conversationId = conversationId) ∧
            written = { rows with
              tasks :=
                rows.tasks ++
                  [{ taskId, conversationId, state, createdAt := now
                     terminalAt }] })) := by
  refine ⟨_, isSome_terminalAt _ now, ?_⟩
  by_cases known : (rows.tasks.any fun row => row.taskId == taskId) = true
  · simp only [recordTask, known, if_true, Option.some.injEq] at stored
    obtain ⟨row, member, isTask⟩ := List.any_eq_true.mp known
    exact .inl ⟨⟨row, member, beq_iff_eq.mp isTask⟩, stored.symm⟩
  · by_cases parent : rows.hasConversation conversationId = true
    · simp only [recordTask, known, parent, if_true, if_false,
        Option.some.injEq, Bool.false_eq_true] at stored
      refine .inr ⟨?_, hasConversation_iff.mp parent, stored.symm⟩
      simpa using known
    · simp [recordTask, known, parent] at stored

end Rows

end A2AShim
