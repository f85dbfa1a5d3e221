import A2AShim.Lib.Pool
import A2AShim.Serve.PushConfigs
import A2AShim.Serve.RecoveredRows

/-!
# The push configurations and their table

An insertion and a deletion write the table first and the lists after it.  The
rows also go when the Tasks they refer to go: resets, sweeps and a recovery
delete conversations, and a conversation that is recorded replaces one.
-/

namespace A2AShim

/-- What the other handlers make SQLite execute.  Resets and sweeps delete
conversations. -/
inductive Statement where
  | insertConversation (conversationId acpSessionId cwd callerId : String)
  | recordTask (taskId conversationId state : String)
  | deleteConversation (conversationId : String)
  deriving DecidableEq, Repr

namespace Statement

/-- A statement that fails is only logged. -/
def execute (now : Nat) (rows : Rows) : Statement → Rows
  | .insertConversation conversationId acpSessionId cwd callerId =>
      rows.insertConversation conversationId acpSessionId cwd callerId now
  | .recordTask taskId conversationId state =>
      (rows.recordTask taskId conversationId state now).getD rows
  | .deleteConversation conversationId =>
      rows.deleteConversation conversationId

/-- The conversation whose row goes. -/
def deletes? : Statement → Option String
  | .insertConversation conversationId _ _ _ => some conversationId
  | .recordTask _ _ _ => none
  | .deleteConversation conversationId => some conversationId

end Statement

namespace Rows

def empty : Rows :=
  { conversations := [], tasks := [], pushConfigs := [] }

/-- The Task has a row that refers to the row of the conversation. -/
def HasTaskIn (rows : Rows) (conversationId taskId : String) : Prop :=
  rows.hasConversation conversationId = true ∧
    ∃ task, task ∈ rows.tasks ∧ task.taskId = taskId ∧
      task.conversationId = conversationId

variable {rows : Rows} {row : PushConfigRow} {key taskId : String}

theorem mem_deleteConversation :
    row ∈ (rows.deleteConversation key).pushConfigs ↔
      row ∈ rows.pushConfigs ∧ ¬ rows.HasTaskIn key row.taskId := by
  unfold deleteConversation HasTaskIn
  cases rows.hasConversation key with
  | false => simp
  | true =>
      simp only [if_true, true_and, List.mem_filter]
      apply and_congr_right
      intro _
      simp only [Bool.not_eq_true', List.any_eq_false, List.mem_filter,
        beq_iff_eq]
      constructor
      · intro kept given
        rcases given with ⟨task, member, isTask, isKey⟩
        exact kept task ⟨member, isKey⟩ isTask
      · intro kept task given isTask
        rcases given with ⟨member, isKey⟩
        exact kept ⟨task, member, isTask, isKey⟩

theorem hasConversation_deleteConversation {tested : String} :
    (rows.deleteConversation key).hasConversation tested = true ↔
      tested ≠ key ∧ rows.hasConversation tested = true := by
  rw [hasConversation_iff, hasConversation_iff,
    conversations_deleteConversation]
  simp only [List.mem_filter, bne_iff_ne]
  constructor
  · intro given
    rcases given with ⟨row, ⟨member, isOther⟩, rfl⟩
    exact ⟨isOther, row, member, rfl⟩
  · intro given
    rcases given with ⟨isOther, row, member, rfl⟩
    exact ⟨row, ⟨member, isOther⟩, rfl⟩

theorem hasTaskIn_deleteConversation {tested : String} :
    (rows.deleteConversation key).HasTaskIn tested taskId ↔
      tested ≠ key ∧ rows.HasTaskIn tested taskId := by
  unfold HasTaskIn
  rw [hasConversation_deleteConversation, and_assoc]
  apply and_congr_right
  intro isOther
  apply and_congr_right
  intro _
  constructor
  · intro given
    rcases given with ⟨task, kept, isTask, isTested⟩
    exact ⟨task, (mem_tasks_deleteConversation.mp kept).1, isTask, isTested⟩
  · intro given
    rcases given with ⟨task, member, isTask, rfl⟩
    exact ⟨task, mem_tasks_deleteConversation.mpr ⟨member, fun _ => isOther⟩,
      isTask, rfl⟩

/-- A configuration outlives the deletion of conversations that its Task does
not belong to. -/
theorem mem_deleteConversations (keys : List String) :
    row ∈ (keys.foldl deleteConversation rows).pushConfigs ↔
      row ∈ rows.pushConfigs ∧
        ∀ key, key ∈ keys → ¬ rows.HasTaskIn key row.taskId := by
  induction keys generalizing rows with
  | nil => simp
  | cons first rest inductionHypothesis =>
      rw [List.foldl_cons, inductionHypothesis, mem_deleteConversation]
      constructor
      · intro given
        rcases given with ⟨⟨member, notFirst⟩, notRest⟩
        refine ⟨member, ?_⟩
        intro key inKeys held
        by_cases same : key = first
        · exact notFirst (same ▸ held)
        · rcases List.mem_cons.mp inKeys with isFirst | inRest
          · exact same isFirst
          · exact notRest key inRest
              (hasTaskIn_deleteConversation.mpr ⟨same, held⟩)
      · intro given
        rcases given with ⟨member, none⟩
        refine ⟨⟨member, none first List.mem_cons_self⟩, ?_⟩
        intro key inRest held
        exact none key (List.mem_cons_of_mem first inRest)
          (hasTaskIn_deleteConversation.mp held).2

theorem pushConfigs_recordTask
    {recorded : Rows} {conversationId state : String} {now : Nat}
    (stored : rows.recordTask taskId conversationId state now =
      some recorded) : recorded.pushConfigs = rows.pushConfigs := by
  obtain ⟨terminalAt, _, ⟨_, rfl⟩ | ⟨_, _, rfl⟩⟩ := recordTask_cases stored
  · rfl
  · rfl

/-- The configurations that a statement leaves. -/
theorem mem_execute {statement : Statement} {now : Nat} :
    row ∈ (statement.execute now rows).pushConfigs ↔
      row ∈ rows.pushConfigs ∧
        ∀ key, statement.deletes? = some key →
          ¬ rows.HasTaskIn key row.taskId := by
  cases statement with
  | insertConversation conversationId acpSessionId cwd callerId =>
      simp only [Statement.execute, Statement.deletes?, Option.some.injEq,
        forall_eq']
      exact mem_deleteConversation
  | deleteConversation conversationId =>
      simp only [Statement.execute, Statement.deletes?, Option.some.injEq,
        forall_eq']
      exact mem_deleteConversation
  | recordTask taskId conversationId state =>
      have same : ((rows.recordTask taskId conversationId state now).getD
          rows).pushConfigs = rows.pushConfigs := by
        cases stored : rows.recordTask taskId conversationId state now with
        | none => rfl
        | some recorded => exact pushConfigs_recordTask stored
      simp [Statement.execute, Statement.deletes?, same]

end Rows

namespace Recovery

def failedKeys (trace : List Completion) : List String :=
  (trace.filter fails).map fun completion => completion.row.conversationId

theorem loadNext_rows (state : Bootstrap) :
    (loadNext state).rows = state.rows := by
  unfold loadNext
  split
  · rfl
  · rfl

theorem seed_rows (count : Nat) (state : Bootstrap) :
    (seed count state).rows = state.rows := by
  induction count generalizing state with
  | zero => rfl
  | succ count inductionHypothesis =>
      rw [seed, inductionHypothesis, loadNext_rows]

theorem step_rows
    {completion : Completion} {state target : Bootstrap}
    (taken : step completion state = some target) :
    target.rows =
      if fails completion then
        state.rows.deleteConversation completion.row.conversationId
      else
        state.rows := by
  unfold step at taken
  split at taken
  · cases taken
    rw [loadNext_rows]
    cases answered : completion.answer with
    | accepted =>
        simp only [sessionLoad, settle, fails, answered]
        split
        · rfl
        · rfl
    | refused | connectionLost | driverGone =>
        simp [sessionLoad, settle, fails, answered]
  · cases taken

/-- A recovery deletes the conversations whose load fails. -/
theorem rows_of_run
    {maxActive idleWindow : Nat} {rows : Rows} {trace : List Completion}
    {state : Bootstrap} (run : Recovers maxActive idleWindow rows trace state) :
    state.rows = (failedKeys trace).foldl Rows.deleteConversation rows := by
  induction run with
  | start => exact seed_rows _ _
  | @snoc trace source target completion _ _ taken inductionHypothesis =>
      rw [step_rows taken, inductionHypothesis, failedKeys, failedKeys,
        List.filter_append, List.map_append, List.foldl_append]
      by_cases failed : fails completion = true
      · simp [failed]
      · simp [failed]

end Recovery

/-! ## The halves of an operation -/

namespace PushConfigs

def insertRow (configs : PushConfigs) (config : PushNotificationConfig)
    (now : Nat) : Option PushConfigs :=
  match configs.rows with
  | none => some configs
  | some rows =>
      (rows.insertPushConfig (config.toRow now)).map fun written =>
        { configs with rows := some written }

def deleteRow (configs : PushConfigs) (configId : String) : PushConfigs :=
  { configs with
    rows := configs.rows.map fun rows => rows.deletePushConfig configId }

def deleteInner (configs : PushConfigs) (configId : String) : PushConfigs :=
  { configs with registry := configs.registry.delete configId }

/-- What the lists know under the id. -/
def getInner (configs : PushConfigs) (scan : List String)
    (configId : String) : Option PushNotificationConfig :=
  scan.findSome? fun taskId =>
    (configs.registry.listForTask taskId).find? fun config =>
      config.configId == configId

def getRow (configs : PushConfigs) (configId : String) :
    Option PushNotificationConfig :=
  (configs.rows.bind fun rows => rows.getPushConfig configId).map
    PushNotificationConfig.ofRow

theorem get_eq (configs : PushConfigs) (scan : List String)
    (configId : String) :
    configs.get scan configId =
      (configs.getInner scan configId).or (configs.getRow configId) :=
  rfl

theorem insert_eq (configs : PushConfigs) (config : PushNotificationConfig)
    (now : Nat) :
    configs.insert config now =
      match configs.insertRow config now with
      | none => .error foreignKeyFailed
      | some written => .ok (written.insertInner config) := by
  unfold insert insertRow
  cases configs.rows with
  | none => rfl
  | some rows =>
      cases stored : rows.insertPushConfig (config.toRow now) with
      | none => simp only [stored, Option.map_none]
      | some written => simp only [stored, Option.map_some]

theorem delete_eq (configs : PushConfigs) (configId : String) :
    configs.delete configId =
      (configs.deleteRow configId).deleteInner configId :=
  rfl

end PushConfigs

/-- The lists are still to be written. -/
inductive ListWrite where
  | insert (config : PushNotificationConfig)
  | delete (configId : String)
  deriving DecidableEq

namespace ListWrite

def apply (configs : PushConfigs) : ListWrite → PushConfigs
  | .insert config => configs.insertInner config
  | .delete configId => configs.deleteInner configId

def inserts? : ListWrite → Option String
  | .insert config => some config.configId
  | .delete _ => none

def deletes? : ListWrite → Option String
  | .insert _ => none
  | .delete configId => some configId

end ListWrite

/-- `pending` are the operations between their two writes. -/
structure PushStore where
  configs : PushConfigs
  pending : Pool Nat ListWrite

namespace PushStore

open Machine

/-- A restart loads the persisted conversations; nothing else comes back. -/
inductive Action where
  | insert (name : Nat) (config : PushNotificationConfig) (now : Nat)
  | delete (name : Nat) (configId : String)
  | finish (name : Nat)
  | execute (statement : Statement) (now : Nat)
  | restart (maxActive idleWindow : Nat) (loads : List Completion)
  deriving DecidableEq

def start : PushStore :=
  { configs := .new (some .empty), pending := .empty }

def step : Action → PushStore → Option PushStore
  | .insert name config now, state =>
      match state.pending name with
      | some _ => none
      | none =>
          match state.configs.insertRow config now with
          | none => some state
          | some configs =>
              some
                { configs
                  pending := state.pending.put name (.insert config) }
  | .delete name configId, state =>
      match state.pending name with
      | some _ => none
      | none =>
          some
            { configs := state.configs.deleteRow configId
              pending := state.pending.put name (.delete configId) }
  | .finish name, state =>
      (state.pending name).map fun write =>
        { configs := write.apply state.configs
          pending := state.pending.remove name }
  | .execute statement now, state =>
      some
        { state with
          configs :=
            { state.configs with
              rows := state.configs.rows.map fun rows =>
                statement.execute now rows } }
  | .restart maxActive idleWindow loads, state =>
      state.configs.rows.bind fun rows =>
        (exec Recovery.step loads
            (Recovery.bootstrap (.new maxActive idleWindow) rows)).bind
          fun recovered =>
            if recovered.tasks = [] then
              some
                { configs := .new (some recovered.rows), pending := .empty }
            else
              none

/-! ## Lists and table -/

def Quiescent (state : PushStore) : Prop :=
  ∀ name, state.pending name = none

def HasRow (configs : PushConfigs) (configId : String) : Prop :=
  ∃ rows row, configs.rows = some rows ∧ row ∈ rows.pushConfigs ∧
    row.configId = configId

/-- The id is in the list of its Task. -/
def Listed (configs : PushConfigs) (configId : String) : Prop :=
  ∃ config, config ∈ configs.listForTask config.taskId ∧
    config.configId = configId

/-- `get`, the lists and the table know the same ids. -/
structure Mirrors (configs : PushConfigs) : Prop where
  got : ∀ scan, scan.Perm configs.keys → ∀ configId,
    (configs.get scan configId).isSome = true ↔ HasRow configs configId
  listed : ∀ configId, Listed configs configId ↔ HasRow configs configId

def Inserting (state : PushStore) (configId : String) : Prop :=
  state.pending.Any fun write => write.inserts? = some configId

def Deleting (state : PushStore) (configId : String) : Prop :=
  state.pending.Any fun write => write.deletes? = some configId

/-- The row belongs to a Task of the conversation. -/
def RowOf (configs : PushConfigs) (key configId : String) : Prop :=
  ∃ rows row, configs.rows = some rows ∧ row ∈ rows.pushConfigs ∧
    row.configId = configId ∧ rows.HasTaskIn key row.taskId

/-- The conversation of a row, if any, is not among those whose load
fails. -/
def Outlives (configs : PushConfigs) (loads : List Completion) : Prop :=
  ∃ rows row, configs.rows = some rows ∧ row ∈ rows.pushConfigs ∧
    ∀ key, key ∈ Recovery.failedKeys loads →
      ¬ rows.HasTaskIn key row.taskId

/-- The steps that part the lists from the table: a listed configuration loses
its row with a conversation, a restart finds a row, or of an insertion and a
deletion of one id the first in the table is the last in the lists. -/
def Parts (state : PushStore) : Action → Prop
  | .finish name =>
      (∃ config, state.pending name = some (.insert config) ∧
          ¬ HasRow state.configs config.configId ∧
            ¬ Deleting state config.configId) ∨
        ∃ configId, state.pending name = some (.delete configId) ∧
          HasRow state.configs configId ∧ ¬ Inserting state configId
  | .execute statement _ =>
      ∃ key configId, statement.deletes? = some key ∧
        RowOf state.configs key configId ∧ Listed state.configs configId ∧
          ¬ Deleting state configId
  | .restart _ _ loads => Outlives state.configs loads
  | _ => False

/-! ## What the operations do -/

variable {configs target : PushConfigs} {config : PushNotificationConfig}
variable {configId tested : String} {now : Nat} {state next : PushStore}

theorem hasRow_iff :
    HasRow configs configId ↔
      ∃ rows, configs.rows = some rows ∧
        (rows.getPushConfig configId).isSome = true := by
  constructor
  · intro given
    rcases given with ⟨rows, row, isRows, member, isId⟩
    exact ⟨rows, isRows,
      PushConfigs.getPushConfig_isSome.mpr ⟨row, member, isId⟩⟩
  · intro given
    rcases given with ⟨rows, isRows, isStored⟩
    obtain ⟨row, member, isId⟩ :=
      PushConfigs.getPushConfig_isSome.mp isStored
    exact ⟨rows, row, isRows, member, isId⟩

theorem insertRow_some
    (written : configs.insertRow config now = some target) :
    target.registry = configs.registry ∧ target.keys = configs.keys ∧
      ∀ tested, HasRow target tested →
        tested = config.configId ∨ HasRow configs tested := by
  unfold PushConfigs.insertRow at written
  cases persisted : configs.rows with
  | none =>
      simp only [persisted, Option.some.injEq] at written
      subst written
      exact ⟨rfl, rfl, fun _ held => .inr held⟩
  | some rows =>
      simp only [persisted] at written
      obtain ⟨after, stored, rfl⟩ := Option.map_eq_some_iff.mp written
      refine ⟨rfl, rfl, ?_⟩
      intro tested given
      rcases given with ⟨_, row, isRows, member, rfl⟩
      cases isRows
      unfold Rows.insertPushConfig at stored
      split at stored
      · cases stored
        rcases List.mem_append.mp member with old | new
        · exact .inr ⟨rows, row, persisted, (List.mem_filter.mp old).1, rfl⟩
        · rw [List.mem_singleton.mp new]
          exact .inl rfl
      · cases stored

theorem hasRow_insertRow
    (written : configs.insertRow config now = some target)
    (held : HasRow configs tested) : HasRow target tested := by
  obtain ⟨rows, row, isRows, member, rfl⟩ := held
  simp only [PushConfigs.insertRow, isRows] at written
  obtain ⟨after, stored, rfl⟩ := Option.map_eq_some_iff.mp written
  unfold Rows.insertPushConfig at stored
  split at stored
  · cases stored
    by_cases same : row.configId = config.configId
    · exact ⟨_, config.toRow now, rfl,
        List.mem_append_right _ (List.mem_singleton.mpr rfl), same.symm⟩
    · refine ⟨_, row, rfl, List.mem_append_left _ ?_, rfl⟩
      exact List.mem_filter.mpr
        ⟨member, by simpa [PushNotificationConfig.toRow] using same⟩
  · cases stored

theorem hasRow_deleteRow :
    HasRow (configs.deleteRow configId) tested ↔
      tested ≠ configId ∧ HasRow configs tested := by
  unfold HasRow PushConfigs.deleteRow
  constructor
  · intro given
    rcases given with ⟨_, row, isRows, member, rfl⟩
    obtain ⟨rows, wasRows, rfl⟩ := Option.map_eq_some_iff.mp isRows
    obtain ⟨stored, differs⟩ := List.mem_filter.mp member
    exact ⟨by simpa using differs, rows, row, wasRows, stored, rfl⟩
  · intro given
    rcases given with ⟨differs, rows, row, isRows, member, rfl⟩
    refine ⟨_, row, by rw [isRows]; rfl, ?_, rfl⟩
    exact List.mem_filter.mpr ⟨member, by simpa using differs⟩

theorem listed_insertInner :
    Listed (configs.insertInner config) tested ↔
      tested = config.configId ∨ Listed configs tested := by
  unfold Listed PushConfigs.listForTask PushConfigs.insertInner
  simp only [PushConfigRegistry.listForTask, PushConfigs.insert_inner,
    Grouped.mem_replace]
  constructor
  · intro given
    rcases given with ⟨found, ⟨_, rfl⟩ | ⟨member, _⟩, rfl⟩
    · exact .inl rfl
    · exact .inr ⟨found, member, rfl⟩
  · intro held
    by_cases same : tested = config.configId
    · exact ⟨config, .inl ⟨rfl, rfl⟩, same.symm⟩
    · obtain ⟨found, member, rfl⟩ := held.resolve_left same
      exact ⟨found, .inr ⟨member, fun _ => same⟩, rfl⟩

theorem listed_deleteInner :
    Listed (configs.deleteInner configId) tested ↔
      tested ≠ configId ∧ Listed configs tested := by
  unfold Listed PushConfigs.listForTask PushConfigs.deleteInner
  constructor
  · intro given
    rcases given with ⟨found, member, rfl⟩
    obtain ⟨inList, differs⟩ := List.mem_filter.mp member
    exact ⟨by simpa using differs, found, inList, rfl⟩
  · intro given
    rcases given with ⟨differs, found, member, rfl⟩
    exact ⟨found, List.mem_filter.mpr ⟨member, by simpa using differs⟩, rfl⟩

/-! ## The invariant -/

/-- A row without its place in the lists is being inserted, and a listed
configuration without a row is being deleted. -/
structure Tracks (state : PushStore) : Prop where
  indexed : state.configs.registry.Indexed
  covers : ∀ taskId, state.configs.registry.inner taskId ≠ [] →
    taskId ∈ state.configs.keys
  stored : ∀ configId, HasRow state.configs configId →
    Listed state.configs configId ∨ Inserting state configId
  listed : ∀ configId, Listed state.configs configId →
    HasRow state.configs configId ∨ Deleting state configId

/-- Without lists, rows and operations. -/
theorem tracks_new
    {rows : Rows} (noConfigs : rows.pushConfigs = []) :
    Tracks { configs := .new (some rows), pending := .empty } := by
  refine ⟨PushConfigRegistry.indexed_empty, fun _ some => absurd rfl some,
    ?_, ?_⟩
  · intro configId given
    rcases given with ⟨_, row, isRows, member, _⟩
    cases isRows
    rw [noConfigs] at member
    cases member
  · intro configId given
    rcases given with ⟨config, member, _⟩
    cases member

theorem Tracks.insert
    {name : Nat} (tracks : Tracks state) (idle : state.pending name = none)
    (written : state.configs.insertRow config now = some target) :
    Tracks
      { configs := target
        pending := state.pending.put name (.insert config) } := by
  obtain ⟨registry, keys, rows⟩ := insertRow_some written
  have sameLists : ∀ tested,
      Listed target tested ↔ Listed state.configs tested := by
    intro tested
    unfold Listed PushConfigs.listForTask
    rw [registry]
  refine ⟨by rw [registry]; exact tracks.indexed, ?_, ?_, ?_⟩
  · rw [registry, keys]
    exact tracks.covers
  · intro tested held
    rw [sameLists]
    rcases rows tested held with rfl | before
    · exact .inr (Pool.any_put rfl)
    · rcases tracks.stored tested before with isListed | inserting
      · exact .inl isListed
      · exact .inr (Pool.any_put_of_free idle inserting)
  · intro tested isListed
    rcases tracks.listed tested ((sameLists tested).mp isListed) with
      held | deleting
    · exact .inl (hasRow_insertRow written held)
    · exact .inr (Pool.any_put_of_free idle deleting)

theorem Tracks.delete
    {name : Nat} (tracks : Tracks state) (idle : state.pending name = none)
    (configId : String) :
    Tracks
      { configs := state.configs.deleteRow configId
        pending := state.pending.put name (.delete configId) } := by
  refine ⟨tracks.indexed, tracks.covers, ?_, ?_⟩
  · intro tested held
    rcases tracks.stored tested (hasRow_deleteRow.mp held).2 with
      isListed | inserting
    · exact .inl isListed
    · exact .inr (Pool.any_put_of_free idle inserting)
  · intro tested isListed
    by_cases same : tested = configId
    · exact .inr (Pool.any_put (by rw [same]; rfl))
    · rcases tracks.listed tested isListed with held | deleting
      · exact .inl (hasRow_deleteRow.mpr ⟨same, held⟩)
      · exact .inr (Pool.any_put_of_free idle deleting)

theorem Tracks.finishInsert
    {name : Nat} (tracks : Tracks state)
    (found : state.pending name = some (.insert config))
    (kept : HasRow state.configs config.configId ∨
      Deleting state config.configId) :
    Tracks
      { configs := state.configs.insertInner config
        pending := state.pending.remove name } := by
  have stillDeleting : ∀ tested, Deleting state tested →
      (state.pending.remove name).Any fun write =>
        write.deletes? = some tested := by
    intro tested deleting
    refine Pool.any_remove_of_any deleting ?_
    intro before isBefore
    rw [found] at isBefore
    cases isBefore
    exact nofun
  refine ⟨tracks.indexed.insert, PushConfigs.covers_insert tracks.covers,
    ?_, ?_⟩
  · intro tested held
    rw [listed_insertInner]
    rcases tracks.stored tested held with isListed | inserting
    · exact .inl (.inr isListed)
    · by_cases same : tested = config.configId
      · exact .inl (.inl same)
      · refine .inr (Pool.any_remove_of_any inserting ?_)
        intro before isBefore
        rw [found] at isBefore
        cases isBefore
        exact fun isTested => same (Option.some.inj isTested).symm
  · intro tested isListed
    have known : HasRow state.configs tested ∨ Deleting state tested := by
      rcases listed_insertInner.mp isListed with rfl | before
      · exact kept
      · exact tracks.listed tested before
    rcases known with held | deleting
    · exact .inl held
    · exact .inr (stillDeleting tested deleting)

theorem Tracks.finishDelete
    {name : Nat} (tracks : Tracks state)
    (found : state.pending name = some (.delete configId))
    (kept : HasRow state.configs configId → Inserting state configId) :
    Tracks
      { configs := state.configs.deleteInner configId
        pending := state.pending.remove name } := by
  have stillInserting : ∀ tested, Inserting state tested →
      (state.pending.remove name).Any fun write =>
        write.inserts? = some tested := by
    intro tested inserting
    refine Pool.any_remove_of_any inserting ?_
    intro before isBefore
    rw [found] at isBefore
    cases isBefore
    exact nofun
  refine ⟨tracks.indexed.delete configId,
    PushConfigs.covers_delete tracks.covers, ?_, ?_⟩
  · intro tested held
    rw [listed_deleteInner]
    by_cases same : tested = configId
    · subst same
      exact .inr (stillInserting tested (kept held))
    · rcases tracks.stored tested held with isListed | inserting
      · exact .inl ⟨same, isListed⟩
      · exact .inr (stillInserting tested inserting)
  · intro tested isListed
    obtain ⟨differs, before⟩ := listed_deleteInner.mp isListed
    rcases tracks.listed tested before with held | deleting
    · exact .inl held
    · refine .inr (Pool.any_remove_of_any deleting ?_)
      intro write isWrite
      rw [found] at isWrite
      cases isWrite
      exact fun isTested => differs (Option.some.inj isTested).symm

/-- A statement that takes no row of a listed configuration. -/
theorem Tracks.execute
    {statement : Statement} (tracks : Tracks state)
    (fresh : ¬ Parts state (.execute statement now)) :
    Tracks
      { state with
        configs :=
          { state.configs with
            rows := state.configs.rows.map fun rows =>
              statement.execute now rows } } := by
  refine ⟨tracks.indexed, tracks.covers, ?_, ?_⟩
  · intro tested given
    rcases given with ⟨_, row, isRows, member, isId⟩
    obtain ⟨rows, wasRows, rfl⟩ := Option.map_eq_some_iff.mp isRows
    exact tracks.stored tested
      ⟨rows, row, wasRows, (Rows.mem_execute.mp member).1, isId⟩
  · intro tested isListed
    rcases tracks.listed tested isListed with held | deleting
    · obtain ⟨rows, row, isRows, member, isId⟩ := held
      by_cases isDeleting : Deleting state tested
      · exact .inr isDeleting
      · refine .inl ⟨statement.execute now rows, row, by rw [isRows]; rfl,
          Rows.mem_execute.mpr ⟨member, ?_⟩, isId⟩
        intro key deletes cascades
        exact fresh ⟨key, tested, deletes,
          ⟨rows, row, isRows, member, isId, cascades⟩, isListed, isDeleting⟩
    · exact .inr deleting

theorem Tracks.step
    {action : Action} (tracks : Tracks state) (fresh : ¬ Parts state action)
    (taken : step action state = some next) : Tracks next := by
  cases action with
  | insert name config now =>
      simp only [PushStore.step] at taken
      split at taken
      · cases taken
      · rename_i idle
        split at taken
        · cases taken
          exact tracks
        · rename_i written
          cases taken
          exact tracks.insert idle written
  | delete name configId =>
      simp only [PushStore.step] at taken
      split at taken
      · cases taken
      · rename_i idle
        cases taken
        exact tracks.delete idle configId
  | finish name =>
      obtain ⟨write, found, rfl⟩ := Option.map_eq_some_iff.mp taken
      simp only [Parts, not_or, not_exists, not_and, not_not] at fresh
      cases write with
      | insert config =>
          refine tracks.finishInsert found ?_
          by_cases held : HasRow state.configs config.configId
          · exact .inl held
          · exact .inr (fresh.1 config found held)
      | delete configId =>
          exact tracks.finishDelete found (fresh.2 configId found)
  | execute statement now =>
      cases taken
      exact tracks.execute fresh
  | restart maxActive idleWindow loads =>
      obtain ⟨rows, isRows, recovers⟩ := Option.bind_eq_some_iff.mp taken
      obtain ⟨recovered, executed, ended⟩ :=
        Option.bind_eq_some_iff.mp recovers
      split at ended
      · cases ended
        have isRecovered := Recovery.rows_of_run (run_of_exec executed)
        apply tracks_new
        rw [List.eq_nil_iff_forall_not_mem, isRecovered]
        intro row member
        obtain ⟨wasStored, survives⟩ :=
          (Rows.mem_deleteConversations _).mp member
        exact fresh ⟨rows, row, isRows, wasStored, survives⟩
      · cases ended

/-! ## Quiescent states -/

theorem isSome_get
    (tracks : Tracks state) {scan : List String}
    (isScan : scan.Perm state.configs.keys) :
    (state.configs.get scan configId).isSome = true ↔
      Listed state.configs configId ∨ HasRow state.configs configId := by
  rw [PushConfigs.get, Option.isSome_or, Bool.or_eq_true]
  refine or_congr ?_ ?_
  · rw [List.findSome?_isSome_iff]
    constructor
    · intro given
      rcases given with ⟨taskId, _, isFound⟩
      obtain ⟨config, member, isId⟩ := List.find?_isSome.mp isFound
      have own := (tracks.indexed taskId).1 config member
      exact ⟨config, own ▸ member, by simpa using isId⟩
    · intro given
      rcases given with ⟨config, member, rfl⟩
      refine ⟨config.taskId, isScan.mem_iff.mpr
        (tracks.covers _ (List.ne_nil_of_mem member)), ?_⟩
      exact List.find?_isSome.mpr ⟨config, member, by simp⟩
  · rw [hasRow_iff, Option.isSome_map, Option.isSome_bind, Option.any_eq_true]

theorem Tracks.mirrors
    (tracks : Tracks state) (quiescent : Quiescent state) :
    Mirrors state.configs := by
  have nonePending : ∀ {holds : ListWrite → Prop},
      ¬ state.pending.Any holds := by
    intro holds given
    rcases given with ⟨name, write, found, _⟩
    rw [quiescent name] at found
    cases found
  have listed : ∀ configId,
      Listed state.configs configId ↔ HasRow state.configs configId :=
    fun configId =>
      ⟨fun isListed => (tracks.listed configId isListed).resolve_right
          nonePending,
        fun held => (tracks.stored configId held).resolve_right nonePending⟩
  refine ⟨?_, listed⟩
  intro scan isScan configId
  rw [isSome_get tracks isScan, listed, or_self]

/-- In a run whose steps do not part the lists from the table, they agree
whenever no operation is under way. -/
theorem lists_mirror_table
    {trace : List Action}
    (run : Run step (fun state action => ¬ Parts state action) start trace
      state)
    (quiescent : Quiescent state) :
    Mirrors state.configs :=
  (run.invariant Tracks (tracks_new rfl)
    fun _ _ _ tracks fresh taken => tracks.step fresh taken).mirrors quiescent

/-! ## Two runs -/

/-- A list is written as the table says, and no row of a configuration goes
with its conversation. -/
def keepsRows (state : PushStore) : Action → Bool
  | .insert _ _ _ => true
  | .delete _ _ => true
  | .finish name =>
      match state.pending name, state.configs.rows with
      | some (.insert config), some rows =>
          (rows.getPushConfig config.configId).isSome
      | some (.delete configId), some rows =>
          (rows.getPushConfig configId).isNone
      | _, _ => false
  | .execute statement _ =>
      state.configs.rows.all fun rows =>
        statement.deletes?.all fun key =>
          rows.pushConfigs.all fun row =>
            !rows.tasks.any fun task =>
              task.taskId == row.taskId && task.conversationId == key
  | .restart _ _ _ =>
      state.configs.rows.all fun rows => rows.pushConfigs.isEmpty

theorem not_parts_of_keepsRows
    {action : Action} (keeps : keepsRows state action = true) :
    ¬ Parts state action := by
  cases action with
  | insert name config now => exact id
  | delete name configId => exact id
  | finish name =>
      intro either
      rcases either with ⟨config, found, lost, _⟩ | ⟨configId, found, held, _⟩
      · cases persisted : state.configs.rows with
        | none => simp [keepsRows, found, persisted] at keeps
        | some rows =>
            simp only [keepsRows, found, persisted] at keeps
            exact lost (hasRow_iff.mpr ⟨rows, persisted, keeps⟩)
      · obtain ⟨rows, persisted, isStored⟩ := hasRow_iff.mp held
        simp only [keepsRows, found, persisted] at keeps
        rw [Option.isNone_iff_eq_none] at keeps
        rw [keeps] at isStored
        cases isStored
  | execute statement now =>
      intro given
      rcases given with
        ⟨key, _, deletes,
          ⟨rows, row, persisted, member, _, _, task, isTask, sameTask, isKey⟩,
          _⟩
      simp only [keepsRows, persisted, deletes, Option.all_some,
        List.all_eq_true, Bool.not_eq_true', List.any_eq_false] at keeps
      have apart := keeps row member task isTask
      simp [sameTask, isKey] at apart
  | restart maxActive idleWindow loads =>
      intro given
      rcases given with ⟨rows, row, persisted, member, _⟩
      simp only [keepsRows, persisted, Option.all_some,
        List.isEmpty_iff] at keeps
      rw [keeps] at member
      cases member

/-- The one operation has written its list. -/
theorem quiescent_of_pending
    {write : ListWrite}
    (pending : state.pending = (Pool.empty.put 0 write).remove 0) :
    Quiescent state := by
  intro name
  rw [pending, Pool.remove]
  by_cases same : name = 0
  · rw [same, Function.update_self]
  · rw [Function.update_of_ne same, Pool.put_other same]
    rfl

/-- A configuration of one conversation, and another conversation that is
reset. -/
theorem other_reset_keeps_mirror :
    ∃ state : PushStore,
      state.configs.listForTask "t" =
          [PushConfigs.hook "a" "t" "http://h"] ∧
        Mirrors state.configs := by
  obtain ⟨state, executed, pending, listed⟩ : ∃ state : PushStore,
      execTested step keepsRows
          [.execute (.insertConversation "c" "s" "/" "anonymous") 1,
            .execute (.recordTask "t" "c" "submitted") 2,
            .insert 0 (PushConfigs.hook "a" "t" "http://h") 3,
            .execute (.insertConversation "d" "r" "/" "anonymous") 4,
            .finish 0, .execute (.deleteConversation "d") 5]
          start = some state ∧
        state.pending = (Pool.empty.put 0
          (.insert (PushConfigs.hook "a" "t" "http://h"))).remove 0 ∧
        state.configs.listForTask "t" =
          [PushConfigs.hook "a" "t" "http://h"] :=
    ⟨_, rfl, rfl, rfl⟩
  exact ⟨state, listed, lists_mirror_table
    (run_of_execTested (fun _ _ keeps => not_parts_of_keepsRows keeps)
      executed)
    (quiescent_of_pending pending)⟩

/-- A reset takes the row and leaves the configuration in its list. -/
theorem reset_leaves_config_listed :
    ¬ ∀ trace (state : PushStore),
        Run step free start trace state → Quiescent state →
          Mirrors state.configs := by
  intro claimed
  obtain ⟨state, executed, pending, listed, lost⟩ : ∃ state : PushStore,
      exec step
          [.execute (.insertConversation "c" "s" "/" "anonymous") 1,
            .execute (.recordTask "t" "c" "submitted") 2,
            .insert 0 (PushConfigs.hook "a" "t" "http://h") 3, .finish 0,
            .execute (.deleteConversation "c") 4]
          start = some state ∧
        state.pending = (Pool.empty.put 0
          (.insert (PushConfigs.hook "a" "t" "http://h"))).remove 0 ∧
        state.configs.listForTask "t" =
          [PushConfigs.hook "a" "t" "http://h"] ∧
        (state.configs.rows.map Rows.pushConfigs) = some [] :=
    ⟨_, rfl, rfl, rfl, rfl⟩
  have mirrors := claimed _ state (run_of_exec executed)
    (quiescent_of_pending pending)
  have isListed : Listed state.configs "a" :=
    ⟨PushConfigs.hook "a" "t" "http://h",
      by rw [show (PushConfigs.hook "a" "t" "http://h").taskId = "t" from rfl,
        listed]; exact List.mem_singleton.mpr rfl, rfl⟩
  obtain ⟨rows, row, isRows, member, _⟩ := (mirrors.listed "a").mp isListed
  rw [isRows, Option.map_some, Option.some.injEq] at lost
  rw [lost] at member
  cases member

end PushStore

end A2AShim
