import A2AShim.Serve.Recovery

/-!
# Map and table after a recovery

Every persisted conversation is loaded once.  Afterwards its row is in the map
and in the table, or in neither, or, where the map was full, in the table
only.
-/

namespace A2AShim

namespace Recovery

variable {rows : Rows} {trace : List Completion} {state : Bootstrap}
variable {maxActive idleWindow : Nat} {ledger : Ledger}

/-- The steps of a bootstrap that starts with an empty map. -/
def Recovers (maxActive idleWindow : Nat) (rows : Rows)
    (trace : List Completion) (state : Bootstrap) : Prop :=
  Machine.Run step Machine.free
    (bootstrap (.new maxActive idleWindow) rows) trace state

theorem pooled_run
    (run : Recovers maxActive idleWindow rows trace state) :
    Pooled bootstrapConcurrency state := by
  refine run.invariant (Pooled bootstrapConcurrency) ?_ ?_
  · have empty : Pooled 0 (Bootstrap.mk rows.listConversations [] []
        (.new maxActive idleWindow) rows ⟨0, 0⟩) :=
      ⟨Nat.le_refl 0, fun fewer => absurd fewer (Nat.not_lt_zero _)⟩
    have seeded := @pooled_seed _ 0 bootstrapConcurrency empty
    rw [Nat.zero_add] at seeded
    exact seeded
  · intro source completion target pooled _ taken
    exact pooled_step pooled taken

theorem books_start (maxActive idleWindow : Nat) (rows : Rows) :
    Books rows [] (bootstrap (.new maxActive idleWindow) rows)
      { restored := [], dropped := [], skipped := [] } := by
  refine books_seed ?_
  exact
    { whole := List.perm_insertionSort _ _
      answered := List.Perm.nil
      failed := rfl
      issued := rfl
      table := (List.filter_eq_self.mpr fun _ _ => rfl).symm
      isFresh := fun _ _ => rfl
      keys := fun _ => rfl
      inMap := nofun
      full := fun isSome => absurd rfl isSome
      report := rfl }

/-- The load of the row succeeded when the map was full. -/
def FoundFull (maxActive idleWindow : Nat) (rows : Rows)
    (trace : List Completion) (row : ConversationRow) : Prop :=
  ∃ before now after reached,
    trace = before ++ ⟨row, .accepted, now⟩ :: after ∧
      Recovers maxActive idleWindow rows before reached ∧
        reached.map.isFull = true

theorem FoundFull.snoc
    {row : ConversationRow} (completion : Completion)
    (found : FoundFull maxActive idleWindow rows trace row) :
    FoundFull maxActive idleWindow rows (trace ++ [completion]) row := by
  obtain ⟨before, now, after, reached, rfl, run, full⟩ := found
  refine ⟨before, now, after ++ [completion], reached, ?_, run, full⟩
  rw [List.append_assoc]
  rfl

theorem books_run
    (distinct : DistinctKeys rows.conversations)
    (run : Recovers maxActive idleWindow rows trace state) :
    ∃ ledger, Books rows trace state ledger ∧
      ∀ row, row ∈ ledger.skipped →
        FoundFull maxActive idleWindow rows trace row := by
  induction run with
  | start => exact ⟨_, books_start maxActive idleWindow rows, nofun⟩
  | @snoc trace source target completion before _ taken
      inductionHypothesis =>
      obtain ⟨ledger, books, foundFull⟩ := inductionHypothesis
      obtain ⟨after, booksAfter, passes⟩ := books_step distinct books taken
      refine ⟨after, booksAfter, ?_⟩
      intro row member
      rcases passes with same | ⟨isNew, accepted, full⟩
      · rw [same] at member
        exact (foundFull row member).snoc completion
      · rw [isNew] at member
        rcases List.mem_append.mp member with old | new
        · exact (foundFull row old).snoc completion
        · obtain ⟨answered, answer, now⟩ := completion
          cases accepted
          rw [List.mem_singleton.mp new]
          exact ⟨trace, now, [], source, rfl, before, full⟩

/-! ## The end of a recovery -/

/-- Every row has one of three fates, and the report counts two of them. -/
structure Agrees (maxActive idleWindow : Nat) (rows : Rows)
    (trace : List Completion) (state : Bootstrap) (ledger : Ledger) :
    Prop where
  whole : ledger.settled.Perm rows.conversations
  restored : ∀ row, row ∈ ledger.restored →
    Restored state.map row ∧ row ∈ state.rows.conversations
  dropped : ∀ row, row ∈ ledger.dropped →
    state.map.get row.conversationId = none ∧
      row ∉ state.rows.conversations
  skipped : ∀ row, row ∈ ledger.skipped →
    state.map.get row.conversationId = none ∧
      row ∈ state.rows.conversations ∧
        FoundFull maxActive idleWindow rows trace row ∧
          state.map.isFull = true
  report : state.report =
    { restored := ledger.restored.length, dropped := ledger.dropped.length }

theorem isIdOf_of_mem
    {listed : List ConversationRow} {row : ConversationRow}
    (member : row ∈ listed) : isIdOf listed row.conversationId = true :=
  List.any_eq_true.mpr ⟨row, member, beq_self_eq_true _⟩

/-- Rows in different parts of the ledger have different keys. -/
theorem not_isIdOf_right
    {left right : List ConversationRow} {row : ConversationRow}
    (distinct : DistinctKeys (left ++ right)) (member : row ∈ left) :
    isIdOf right row.conversationId = false := by
  rw [DistinctKeys, List.map_append] at distinct
  rw [isIdOf, List.any_eq_false]
  intro other inRight
  simp only [beq_iff_eq]
  intro same
  refine List.disjoint_of_nodup_append distinct
    (List.mem_map_of_mem member) ?_
  rw [← same]
  exact List.mem_map_of_mem inRight

theorem not_isIdOf_left
    {left right : List ConversationRow} {row : ConversationRow}
    (distinct : DistinctKeys (left ++ right)) (member : row ∈ right) :
    isIdOf left row.conversationId = false := by
  refine not_isIdOf_right ?_ member
  rw [DistinctKeys, (List.perm_append_comm.map _).nodup_iff]
  exact distinct

theorem agrees_of_books
    (distinct : DistinctKeys rows.conversations)
    (books : Books rows trace state ledger)
    (foundFull : ∀ row, row ∈ ledger.skipped →
      FoundFull maxActive idleWindow rows trace row)
    (whole : ledger.settled.Perm rows.conversations) :
    Agrees maxActive idleWindow rows trace state ledger := by
  have keys : DistinctKeys
      (ledger.restored ++ ledger.dropped ++ ledger.skipped) :=
    (whole.map ConversationRow.conversationId).nodup_iff.mpr distinct
  have firstKeys : DistinctKeys (ledger.restored ++ ledger.dropped) := by
    rw [DistinctKeys, List.map_append] at keys
    exact (List.nodup_append.mp keys).1
  have inTable : ∀ row, row ∈ ledger.settled →
      isIdOf ledger.dropped row.conversationId = false →
        row ∈ state.rows.conversations := by
    intro row member notDropped
    rw [books.table, List.mem_filter]
    exact ⟨whole.mem_iff.mp member, by rw [notDropped]; rfl⟩
  have notInMap : ∀ row : ConversationRow,
      isIdOf ledger.restored row.conversationId = false →
        state.map.get row.conversationId = none := by
    intro row notRestored
    rw [← Option.not_isSome_iff_eq_none, books.keys, notRestored]
    exact Bool.false_ne_true
  refine
    { whole
      restored := fun row member => ⟨books.inMap row member, ?_⟩
      dropped := fun row member => ⟨notInMap row ?_, ?_⟩
      skipped := fun row member =>
        ⟨notInMap row ?_, ?_, foundFull row member, ?_⟩
      report := books.report }
  · exact inTable row (List.mem_append_left _ (List.mem_append_left _ member))
      (not_isIdOf_right firstKeys member)
  · exact not_isIdOf_left firstKeys member
  · intro kept
    rw [books.table, List.mem_filter, isIdOf_of_mem member] at kept
    cases kept.2
  · have notFirst := not_isIdOf_left keys member
    rw [isIdOf_append, Bool.or_eq_false_iff] at notFirst
    exact notFirst.1
  · have notFirst := not_isIdOf_left keys member
    rw [isIdOf_append, Bool.or_eq_false_iff] at notFirst
    exact inTable row (List.mem_append_right _ member) notFirst.2
  · exact books.full (List.ne_nil_of_mem member)

/-- A recovery loads every row once, at most eight at a time, and ends when
all are answered; then map, table and report agree. -/
theorem recovery_agrees
    (distinct : DistinctKeys rows.conversations)
    (run : Recovers maxActive idleWindow rows trace state) :
    state.tasks.length ≤ bootstrapConcurrency ∧
      (state.issued ++ state.rowIter).Perm rows.conversations ∧
        trace.length + state.tasks.length + state.rowIter.length =
            rows.conversations.length ∧
          (∀ row answer now, row ∈ state.tasks →
            (step ⟨row, answer, now⟩ state).isSome = true) ∧
            (state.tasks = [] →
              state.rowIter = [] ∧
                ∃ ledger,
                  Agrees maxActive idleWindow rows trace state ledger ∧
                  ledger.dropped =
                    (trace.filter fails).map Completion.row) := by
  obtain ⟨bounded, saturated⟩ := pooled_run run
  obtain ⟨ledger, books, foundFull⟩ := books_run distinct run
  refine ⟨bounded, ?_, ?_, ?_, ?_⟩
  · rw [books.issued]
    exact List.perm_insertionSort _ _
  · have counted := books.whole.length_eq
    have answered := books.answered.length_eq
    simp only [List.length_append, List.length_map] at counted answered
    omega
  · intro row answer now outstanding
    simp [step, outstanding]
  · intro finished
    have exhausted : state.rowIter = [] := by
      apply saturated
      rw [finished]
      decide
    refine ⟨exhausted, ledger, agrees_of_books distinct books foundFull ?_,
      books.failed⟩
    have whole := books.whole
    rw [finished, exhausted, List.append_nil, List.append_nil] at whole
    exact whole

def chatRow (number : Nat) : ConversationRow :=
  { conversationId := "c" ++ toString number
    acpSessionId := "s" ++ toString number
    cwd := "/w", callerId := "anonymous"
    createdAt := number, lastUsedAt := number }

def chatRows (count : Nat) : Rows :=
  { conversations := (List.range count).map chatRow
    tasks := []
    pushConfigs := [] }

theorem two_rows_agree :
    ∃ trace, ∃ state : Bootstrap,
      state.report = { restored := 1, dropped := 1 } ∧
        state.tasks = [] ∧
          ∃ ledger, Agrees 4 60 (chatRows 2) trace state ledger := by
  have executes :
      (Machine.exec step
        [⟨chatRow 1, .refused "gone", 5⟩, ⟨chatRow 0, .accepted, 6⟩]
        (bootstrap (.new 4 60) (chatRows 2))).map (fun state =>
          (state.report, state.tasks)) =
        some ({ restored := 1, dropped := 1 }, []) := by
    decide +kernel
  obtain ⟨state, executed, isEnd⟩ := Option.map_eq_some_iff.mp executes
  obtain ⟨report, finished⟩ := Prod.mk.injEq _ _ _ _ ▸ isEnd
  have distinct : DistinctKeys (chatRows 2).conversations := by
    unfold DistinctKeys
    decide +kernel
  obtain ⟨_, ledger, agrees, _⟩ :=
    (recovery_agrees distinct (Machine.run_of_exec executed)).2.2.2.2 finished
  exact ⟨_, state, report, finished, ledger, agrees⟩

/-- A row whose load succeeds when the map is full is not counted. -/
theorem full_map_is_not_counted :
    ¬ ∀ maxActive idleWindow rows trace state,
        DistinctKeys rows.conversations →
          Recovers maxActive idleWindow rows trace state →
            state.tasks = [] →
              state.report.restored + state.report.dropped =
                rows.conversations.length := by
  intro claimed
  have executes :
      (Machine.exec step
        [⟨chatRow 0, .accepted, 5⟩, ⟨chatRow 1, .accepted, 6⟩]
        (bootstrap (.new 1 60) (chatRows 2))).map (fun state =>
          (state.report, state.tasks)) =
        some ({ restored := 1, dropped := 0 }, []) := by
    decide +kernel
  obtain ⟨state, executed, isEnd⟩ := Option.map_eq_some_iff.mp executes
  obtain ⟨report, finished⟩ := Prod.mk.injEq _ _ _ _ ▸ isEnd
  have distinct : DistinctKeys (chatRows 2).conversations := by
    unfold DistinctKeys
    decide +kernel
  have counted := claimed 1 60 (chatRows 2) _ state distinct
    (Machine.run_of_exec executed) finished
  rw [report] at counted
  revert counted
  decide

/-! ## The rows that are deleted -/

/-- The rows that are gone are those whose load the agent has refused. -/
def DeletesOnlyRefused (rows : Rows) (trace : List Completion)
    (state : Bootstrap) : Prop :=
  ∀ row, row ∈ rows.conversations → row ∉ state.rows.conversations →
    ∃ text now, Completion.mk row (.refused text) now ∈ trace

theorem mem_of_deleted
    (distinct : DistinctKeys rows.conversations)
    (books : Books rows trace state ledger) {row : ConversationRow}
    (listed : row ∈ rows.conversations)
    (deleted : row ∉ state.rows.conversations) : row ∈ ledger.dropped := by
  rw [books.table, List.mem_filter] at deleted
  have isDropped : isIdOf ledger.dropped row.conversationId = true := by
    by_contra notDropped
    rw [Bool.not_eq_true] at notDropped
    exact deleted ⟨listed, by rw [notDropped]; rfl⟩
  obtain ⟨other, member, same⟩ := List.any_eq_true.mp isDropped
  have otherListed : other ∈ rows.conversations := by
    refine books.whole.mem_iff.mp (List.mem_append_left _ ?_)
    exact List.mem_append_left _ (List.mem_append_right _ member)
  have isRow := List.inj_on_of_nodup_map distinct otherListed listed
    (beq_iff_eq.mp same)
  rw [← isRow]
  exact member

/-- A recovery deletes only what the agent has refused exactly when every load
that has ended was answered by the agent. -/
theorem deletes_only_refused_iff
    (distinct : DistinctKeys rows.conversations)
    (run : Recovers maxActive idleWindow rows trace state) :
    DeletesOnlyRefused rows trace state ↔
      ∀ completion, completion ∈ trace →
        completion.answer.fromAgent = true := by
  obtain ⟨ledger, books, _⟩ := books_run distinct run
  constructor
  · intro onlyRefused completion member
    by_contra notFromAgent
    have isFailure : fails completion = true := by
      apply decide_eq_true
      intro accepted
      rw [accepted] at notFromAgent
      exact notFromAgent rfl
    have dropped : completion.row ∈ ledger.dropped := by
      rw [books.failed]
      exact List.mem_map_of_mem (List.mem_filter.mpr ⟨member, isFailure⟩)
    have settled : completion.row ∈ ledger.settled :=
      List.mem_append_left _ (List.mem_append_right _ dropped)
    have listed : completion.row ∈ rows.conversations :=
      books.whole.mem_iff.mp (List.mem_append_left _ settled)
    have deleted : completion.row ∉ state.rows.conversations := by
      rw [books.table, List.mem_filter, isIdOf_of_mem dropped]
      intro kept
      cases kept.2
    obtain ⟨text, now, refused⟩ := onlyRefused _ listed deleted
    have once : (trace.map Completion.row).Nodup := by
      rw [books.answered.nodup_iff]
      exact (List.nodup_append.mp (books.whole.nodup_iff.mpr
        distinct.of_map)).1
    have same := List.inj_on_of_nodup_map once member refused rfl
    rw [same] at notFromAgent
    exact notFromAgent rfl
  · intro allFromAgent row listed deleted
    have dropped := mem_of_deleted distinct books listed deleted
    rw [books.failed] at dropped
    obtain ⟨⟨answered, answer, now⟩, failing, rfl⟩ := List.mem_map.mp dropped
    obtain ⟨member, isFailure⟩ := List.mem_filter.mp failing
    have fromAgent := allFromAgent _ member
    cases answer with
    | accepted => simp [fails] at isFailure
    | refused text => exact ⟨text, now, member⟩
    | connectionLost text => cases fromAgent
    | driverGone => cases fromAgent

theorem refused_row_is_deleted :
    ∃ state : Bootstrap,
      state.rows.conversations = [chatRow 0] ∧
        DeletesOnlyRefused (chatRows 2)
          [⟨chatRow 1, .refused "gone", 5⟩, ⟨chatRow 0, .accepted, 6⟩]
          state := by
  have executes :
      (Machine.exec step
        [⟨chatRow 1, .refused "gone", 5⟩, ⟨chatRow 0, .accepted, 6⟩]
        (bootstrap (.new 4 60) (chatRows 2))).map (fun state =>
          state.rows.conversations) =
        some [chatRow 0] := by
    decide +kernel
  obtain ⟨state, executed, kept⟩ := Option.map_eq_some_iff.mp executes
  have distinct : DistinctKeys (chatRows 2).conversations := by
    unfold DistinctKeys
    decide +kernel
  refine ⟨state, kept, (deletes_only_refused_iff distinct
    (Machine.run_of_exec executed)).mpr ?_⟩
  decide

/-- A load that the agent has not answered deletes its row. -/
theorem unanswered_row_is_deleted :
    ¬ ∀ maxActive idleWindow rows trace state,
        DistinctKeys rows.conversations →
          Recovers maxActive idleWindow rows trace state →
            DeletesOnlyRefused rows trace state := by
  intro claimed
  have executes :
      (Machine.exec step [⟨chatRow 0, .driverGone, 5⟩]
        (bootstrap (.new 4 60) (chatRows 1))).map (fun state =>
          state.rows.conversations) =
        some [] := by
    decide +kernel
  obtain ⟨state, executed, deleted⟩ := Option.map_eq_some_iff.mp executes
  have distinct : DistinctKeys (chatRows 1).conversations := by
    unfold DistinctKeys
    decide +kernel
  obtain ⟨text, now, refused⟩ :=
    claimed 4 60 (chatRows 1) _ state distinct (Machine.run_of_exec executed)
      (chatRow 0) (by decide +kernel) (by rw [deleted]; nofun)
  simp at refused

end Recovery

end A2AShim
