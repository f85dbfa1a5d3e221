import Mathlib.Data.List.Sort
import A2AShim.Lib.Machine
import A2AShim.Serve.Conversation
import A2AShim.Serve.Persistence

/-!
# Recovery after a restart

`bootstrap` asks the agent to load the session of every persisted
conversation, at most eight at a time.  A load that succeeds puts the
conversation into the map, if there is room; one that fails deletes its row.
-/

namespace A2AShim

/-- The rows in the order of the statement. -/
def Rows.listConversations (rows : Rows) : List ConversationRow :=
  rows.conversations.insertionSort fun first second =>
    first.createdAt ≤ second.createdAt

/-- What becomes of a `session/load`: the agent answers it, or the connection
fails the request, or the driver is gone before it has an answer. -/
inductive LoadAnswer where
  | accepted
  | refused (text : String)
  | connectionLost (text : String)
  | driverGone
  deriving DecidableEq, Repr

def LoadAnswer.fromAgent : LoadAnswer → Bool
  | .accepted => true
  | .refused _ => true
  | .connectionLost _ => false
  | .driverGone => false

/-- `AcpClient::session_load`. -/
def sessionLoad : LoadAnswer → Except AcpError Unit
  | .accepted => .ok ()
  | .refused text => .error (.agent text)
  | .connectionLost text => .error (.agent text)
  | .driverGone => .error .driverGone

namespace ConversationMap

/-- `insert_loaded`; none is its `false`. -/
def insertLoaded? (map : ConversationMap) (key : String) (session : SessionId)
    (now : Nat) : Option ConversationMap :=
  if (map.get key).isSome ∨ map.isFull = true then
    none
  else
    some (map.insert key session now)

end ConversationMap

structure RecoveryReport where
  restored : Nat
  dropped : Nat
  deriving DecidableEq, Repr

/-- `tasks` are the loads without an answer; `issued` is all that have been
sent. -/
structure Bootstrap where
  rowIter : List ConversationRow
  tasks : List ConversationRow
  issued : List ConversationRow
  map : ConversationMap
  rows : Rows
  report : RecoveryReport

/-- A load is answered. -/
structure Completion where
  row : ConversationRow
  answer : LoadAnswer
  now : Nat
  deriving DecidableEq, Repr

namespace Recovery

def bootstrapConcurrency : Nat :=
  8

/-- Send the load of the next row, if there is one. -/
def loadNext (state : Bootstrap) : Bootstrap :=
  match state.rowIter with
  | [] => state
  | row :: rest =>
      { state with
        rowIter := rest
        tasks := state.tasks ++ [row]
        issued := state.issued ++ [row] }

def seed : Nat → Bootstrap → Bootstrap
  | 0, state => state
  | count + 1, state => seed count (loadNext state)

def bootstrap (map : ConversationMap) (rows : Rows) : Bootstrap :=
  seed bootstrapConcurrency
    { rowIter := rows.listConversations
      tasks := []
      issued := []
      map
      rows
      report := { restored := 0, dropped := 0 } }

def settle (row : ConversationRow) (now : Nat) (state : Bootstrap) :
    Except AcpError Unit → Bootstrap
  | .ok () =>
      match state.map.insertLoaded? row.conversationId row.acpSessionId now with
      | some map =>
          { state with
            map
            report :=
              { state.report with restored := state.report.restored + 1 } }
      | none => state
  | .error _ =>
      { state with
        rows := state.rows.deleteConversation row.conversationId
        report := { state.report with dropped := state.report.dropped + 1 } }

def step (completion : Completion) (state : Bootstrap) : Option Bootstrap :=
  if completion.row ∈ state.tasks then
    some (loadNext
      (settle completion.row completion.now
        { state with tasks := state.tasks.erase completion.row }
        (sessionLoad completion.answer)))
  else
    none

/-! ## What becomes of the rows -/

/-- The rows whose load has been answered, by what has become of them. -/
structure Ledger where
  restored : List ConversationRow
  dropped : List ConversationRow
  skipped : List ConversationRow

def Ledger.settled (ledger : Ledger) : List ConversationRow :=
  ledger.restored ++ ledger.dropped ++ ledger.skipped

/-- The conversation of a row is in the map with its session. -/
def Restored (map : ConversationMap) (row : ConversationRow) : Prop :=
  ∃ ref conversation, map.get row.conversationId = some ref ∧
    map.objects ref = some conversation ∧
      conversation.id = row.conversationId ∧
        conversation.acpSessionId = row.acpSessionId

def isIdOf (rows : List ConversationRow) (key : String) : Bool :=
  rows.any fun row => row.conversationId == key

/-- The answers that fail a load. -/
def fails (completion : Completion) : Bool :=
  decide (completion.answer ≠ .accepted)

/-- The ledger of a bootstrap, with what the map and the table hold. -/
structure Books (initial : Rows) (trace : List Completion)
    (state : Bootstrap) (ledger : Ledger) : Prop where
  whole :
    (ledger.settled ++ (state.tasks ++ state.rowIter)).Perm
      initial.conversations
  answered : (trace.map Completion.row).Perm ledger.settled
  failed : ledger.dropped = (trace.filter fails).map Completion.row
  issued : state.issued ++ state.rowIter = initial.listConversations
  table : state.rows.conversations =
    initial.conversations.filter fun row =>
      !isIdOf ledger.dropped row.conversationId
  isFresh : state.map.Fresh
  keys : ∀ key, (state.map.get key).isSome = isIdOf ledger.restored key
  inMap : ∀ row, row ∈ ledger.restored → Restored state.map row
  full : ledger.skipped ≠ [] → state.map.isFull = true
  report : state.report =
    { restored := ledger.restored.length, dropped := ledger.dropped.length }

/-- A row is passed over when its load succeeds and the map is full. -/
def PassesOver (completion : Completion) (state : Bootstrap)
    (ledger after : Ledger) : Prop :=
  after.skipped = ledger.skipped ∨
    after.skipped = ledger.skipped ++ [completion.row] ∧
      completion.answer = .accepted ∧ state.map.isFull = true

/-- The pool holds `limit` loads, or there are no more rows. -/
def Pooled (limit : Nat) (state : Bootstrap) : Prop :=
  state.tasks.length ≤ limit ∧
    (state.tasks.length < limit → state.rowIter = [])

/-- No two rows have one key. -/
def DistinctKeys (rows : List ConversationRow) : Prop :=
  (rows.map ConversationRow.conversationId).Nodup

variable {initial : Rows} {trace : List Completion}
variable {state target : Bootstrap} {ledger : Ledger}
variable {row : ConversationRow} {limit now : Nat}

/-! ## The pool -/

theorem pooled_loadNext (pooled : Pooled limit state) :
    Pooled (limit + 1) (loadNext state) := by
  obtain ⟨bounded, saturated⟩ := pooled
  unfold loadNext
  cases waiting : state.rowIter with
  | nil => exact ⟨Nat.le_succ_of_le bounded, fun _ => waiting⟩
  | cons first rest =>
      have isFull : state.tasks.length = limit := by
        rcases Nat.lt_or_eq_of_le bounded with fewer | same
        · have none := saturated fewer
          rw [waiting] at none
          cases none
        · exact same
      refine ⟨?_, ?_⟩
      · simp [isFull]
      · intro fewer
        simp [isFull] at fewer

theorem pooled_seed
    {count : Nat} (pooled : Pooled limit state) :
    Pooled (limit + count) (seed count state) := by
  induction count generalizing limit state with
  | zero => exact pooled
  | succ count inductionHypothesis =>
      have seeded := inductionHypothesis (pooled_loadNext pooled)
      rw [Nat.add_right_comm] at seeded
      exact seeded

theorem settle_tasks (state : Bootstrap) (result : Except AcpError Unit) :
    (settle row now state result).tasks = state.tasks ∧
      (settle row now state result).rowIter = state.rowIter ∧
        (settle row now state result).issued = state.issued := by
  cases result with
  | error error => exact ⟨rfl, rfl, rfl⟩
  | ok _ =>
      unfold settle
      simp only
      split <;> exact ⟨rfl, rfl, rfl⟩

theorem pooled_step
    {completion : Completion}
    (pooled : Pooled bootstrapConcurrency state)
    (taken : step completion state = some target) :
    Pooled bootstrapConcurrency target := by
  unfold step at taken
  split at taken
  · rename_i member
    cases taken
    refine @pooled_loadNext _ 7 ⟨?_, ?_⟩
    · rw [(settle_tasks _ _).1]
      have bounded : state.tasks.length ≤ 8 := pooled.1
      simp only [List.length_erase_of_mem member]
      omega
    · rw [(settle_tasks _ _).1, (settle_tasks _ _).2.1]
      simp only [List.length_erase_of_mem member]
      intro fewer
      have some := List.length_pos_of_mem member
      apply pooled.2
      have isLimit : bootstrapConcurrency = 8 := rfl
      omega
  · cases taken

/-! ## The ledger -/

theorem books_loadNext
    (books : Books initial trace state ledger) :
    Books initial trace (loadNext state) ledger := by
  unfold loadNext
  cases waiting : state.rowIter with
  | nil => exact books
  | cons first rest =>
      refine { books with whole := ?_, issued := ?_ }
      · have whole := books.whole
        rw [waiting] at whole
        simpa using whole
      · have issued := books.issued
        rw [waiting] at issued
        simpa using issued

theorem books_seed
    {count : Nat} (books : Books initial trace state ledger) :
    Books initial trace (seed count state) ledger := by
  induction count generalizing state with
  | zero => exact books
  | succ count inductionHypothesis =>
      exact inductionHypothesis (books_loadNext books)

theorem isIdOf_append (left right : List ConversationRow) (key : String) :
    isIdOf (left ++ right) key = (isIdOf left key || isIdOf right key) :=
  List.any_append

/-- A row that is not settled has the key of none that is. -/
theorem not_isIdOf
    (distinct : DistinctKeys initial.conversations)
    (books : Books initial trace state ledger)
    (outstanding : row ∈ state.tasks) :
    isIdOf ledger.settled row.conversationId = false := by
  have keys := (books.whole.map ConversationRow.conversationId).nodup_iff.mpr
    distinct
  rw [List.map_append] at keys
  rw [isIdOf, List.any_eq_false]
  intro other settled
  simp only [beq_iff_eq]
  intro same
  refine (List.disjoint_of_nodup_append keys)
    (List.mem_map_of_mem settled) ?_
  rw [same]
  exact List.mem_map_of_mem (List.mem_append_left _ outstanding)

theorem Restored.insert
    {map : ConversationMap} {key session : String}
    (restored : Restored map row) (isFresh : map.Fresh)
    (other : row.conversationId ≠ key) :
    Restored (map.insert key session now) row := by
  obtain ⟨ref, conversation, held, stored, isId, isSession⟩ := restored
  refine ⟨ref, conversation, ?_, ?_, isId, isSession⟩
  · rw [ConversationMap.insert_get_other other]
    exact held
  · have isOld : ref ≠ map.fresh := by
      intro same
      rw [same, isFresh map.fresh (Nat.le_refl _)] at stored
      cases stored
    exact (Function.update_of_ne isOld _ _).trans stored

theorem restored_insert (map : ConversationMap) (row : ConversationRow)
    (now : Nat) :
    Restored (map.insert row.conversationId row.acpSessionId now) row :=
  ⟨map.fresh, _, ConversationMap.insert_get_self, Function.update_self _ _ _,
    rfl, rfl⟩

/-- The row of an answered load goes from the pool to the ledger. -/
theorem whole_settled
    {settled : List ConversationRow}
    (books : Books initial trace state ledger)
    (outstanding : row ∈ state.tasks)
    (added : settled.Perm (ledger.settled ++ [row])) :
    (settled ++ (state.tasks.erase row ++ state.rowIter)).Perm
      initial.conversations := by
  have pool : ([row] ++ (state.tasks.erase row ++ state.rowIter)).Perm
      (state.tasks ++ state.rowIter) :=
    (List.perm_cons_erase outstanding).symm.append_right state.rowIter
  refine (added.append_right _).trans ?_
  rw [List.append_assoc]
  exact (pool.append_left ledger.settled).trans books.whole

theorem answered_settled
    {settled : List ConversationRow} {answer : LoadAnswer}
    (books : Books initial trace state ledger)
    (added : settled.Perm (ledger.settled ++ [row])) :
    ((trace ++ [Completion.mk row answer now]).map Completion.row).Perm
      settled := by
  rw [List.map_append]
  exact (books.answered.append_right [row]).trans added.symm

theorem dropped_accepted (books : Books initial trace state ledger) :
    ledger.dropped =
      ((trace ++ [Completion.mk row .accepted now]).filter fails).map
        Completion.row := by
  rw [List.filter_append, List.map_append, ← books.failed]
  simp [fails]

/-- A conversation that is restored has a key that is not in the map. -/
theorem books_restored
    (books : Books initial trace state ledger)
    (outstanding : row ∈ state.tasks)
    (isNew : isIdOf ledger.restored row.conversationId = false)
    (room : state.map.isFull = false) :
    Books initial (trace ++ [⟨row, .accepted, now⟩])
      { state with
        tasks := state.tasks.erase row
        map := state.map.insert row.conversationId row.acpSessionId now
        report :=
          { state.report with restored := state.report.restored + 1 } }
      { ledger with restored := ledger.restored ++ [row] } := by
  have added : (Ledger.settled
      { ledger with restored := ledger.restored ++ [row] }).Perm
        (ledger.settled ++ [row]) := by
    simp only [Ledger.settled, List.append_assoc]
    refine List.Perm.append_left _ ?_
    rw [← List.append_assoc ledger.dropped]
    exact List.perm_append_comm
  have dropped := @dropped_accepted _ _ _ _ row now books
  refine
    { whole := whole_settled books outstanding added
      answered := answered_settled books added
      failed := dropped
      issued := books.issued
      table := books.table
      isFresh := books.isFresh.insert
      keys := ?_
      inMap := ?_
      full := ?_
      report := ?_ }
  · intro key
    rw [isIdOf_append, ← books.keys key]
    by_cases same : key = row.conversationId
    · subst same
      rw [ConversationMap.insert_get_self]
      simp [isIdOf]
    · rw [ConversationMap.insert_get_other same]
      simp [isIdOf, Ne.symm same]
  · intro tested member
    rcases List.mem_append.mp member with old | new
    · refine (books.inMap tested old).insert books.isFresh ?_
      intro same
      have isOld := List.any_eq_false.mp isNew tested old
      exact isOld (beq_iff_eq.mpr same)
    · rw [List.mem_singleton.mp new]
      exact restored_insert _ _ _
  · intro someSkipped
    have full := books.full someSkipped
    rw [room] at full
    cases full
  · simp [books.report]

theorem books_skipped
    (books : Books initial trace state ledger)
    (outstanding : row ∈ state.tasks) (full : state.map.isFull = true) :
    Books initial (trace ++ [⟨row, .accepted, now⟩])
      { state with tasks := state.tasks.erase row }
      { ledger with skipped := ledger.skipped ++ [row] } := by
  have added : (Ledger.settled
      { ledger with skipped := ledger.skipped ++ [row] }).Perm
        (ledger.settled ++ [row]) := by
    simp only [Ledger.settled, List.append_assoc]
    exact List.Perm.refl _
  have dropped := @dropped_accepted _ _ _ _ row now books
  exact
    { books with
      whole := whole_settled books outstanding added
      answered := answered_settled books added
      failed := dropped
      full := fun _ => full }

/-- An answer that accepts the load. -/
theorem books_accepted
    (distinct : DistinctKeys initial.conversations)
    (books : Books initial trace state ledger)
    (outstanding : row ∈ state.tasks) :
    ∃ after,
      Books initial (trace ++ [⟨row, .accepted, now⟩])
        (settle row now { state with tasks := state.tasks.erase row } (.ok ()))
        after ∧
      PassesOver ⟨row, .accepted, now⟩ state ledger after := by
  have isNew := not_isIdOf distinct books outstanding
  simp only [Ledger.settled, isIdOf_append, Bool.or_eq_false_iff] at isNew
  have absent : (state.map.get row.conversationId).isSome = false := by
    rw [books.keys]
    exact isNew.1.1
  unfold settle ConversationMap.insertLoaded?
  cases full : state.map.isFull with
  | true =>
      simp only [absent, or_true, if_true]
      exact ⟨_, books_skipped books outstanding full, .inr ⟨rfl, rfl, full⟩⟩
  | false =>
      simp only [absent, or_self, if_false, Bool.false_eq_true]
      exact ⟨_, books_restored books outstanding isNew.1.1 full, .inl rfl⟩

/-- An answer that fails the load. -/
theorem books_failed
    {answer : LoadAnswer} {error : AcpError} (isFailure : answer ≠ .accepted)
    (books : Books initial trace state ledger)
    (outstanding : row ∈ state.tasks) :
    Books initial (trace ++ [⟨row, answer, now⟩])
      (settle row now { state with tasks := state.tasks.erase row }
        (.error error))
      { ledger with dropped := ledger.dropped ++ [row] } := by
  have added : (Ledger.settled
      { ledger with dropped := ledger.dropped ++ [row] }).Perm
        (ledger.settled ++ [row]) := by
    simp only [Ledger.settled, List.append_assoc]
    refine List.Perm.append_left _ (List.Perm.append_left _ ?_)
    exact List.perm_append_comm
  refine
    { books with
      whole := whole_settled books outstanding added
      answered := answered_settled books added
      failed := ?_
      table := ?_
      report := ?_ }
  · rw [List.filter_append, List.map_append, ← books.failed]
    simp [fails, isFailure]
  · simp only [settle, Rows.conversations_deleteConversation, books.table,
      List.filter_filter, isIdOf_append]
    congr 1
    funext tested
    simp [isIdOf, Bool.and_comm, bne, BEq.comm]
  · simp [settle, books.report]

theorem books_step
    {completion : Completion}
    (distinct : DistinctKeys initial.conversations)
    (books : Books initial trace state ledger)
    (taken : step completion state = some target) :
    ∃ after, Books initial (trace ++ [completion]) target after ∧
      PassesOver completion state ledger after := by
  unfold step at taken
  split at taken
  · rename_i outstanding
    cases taken
    obtain ⟨row, answer, now⟩ := completion
    cases answer with
    | accepted =>
        obtain ⟨after, settled, passes⟩ :=
          @books_accepted _ _ _ _ row now distinct books outstanding
        exact ⟨after, books_loadNext settled, passes⟩
    | refused text | connectionLost text | driverGone =>
        exact
          ⟨_, books_loadNext (books_failed nofun books outstanding), .inl rfl⟩
  · cases taken

end Recovery

end A2AShim
