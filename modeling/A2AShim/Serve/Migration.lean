import Mathlib.Data.List.Nodup
import A2AShim.Lib.Script

/-!
# Migrations that are cut off

`ensure_current` runs in autocommit mode: what its statements have written
stays when the process ends between two of them.  The version is written last,
so the next run begins anew, and the tables it finds are in its way.
-/

namespace A2AShim

/-- A value that a row can hold. -/
inductive Cell where
  | null
  | integer (value : Int)
  | real (bits : UInt64)
  | text (value : String)
  | blob (bytes : List UInt8)
  deriving DecidableEq, Repr

/-- A column, and what its declaration says after the name. -/
structure Column where
  name : String
  declaration : String
  deriving DecidableEq, Repr

/-- Tables and indexes share their names, which are in lower case. -/
inductive SchemaObject where
  | table (name : String) (columns : List Column)
  | index (name table column : String)
  deriving DecidableEq, Repr

def SchemaObject.name : SchemaObject → String
  | .table name _ => name
  | .index name _ _ => name

/-- The rows are those of a table. -/
structure SchemaEntry where
  object : SchemaObject
  rows : List (List Cell)
  deriving DecidableEq, Repr

/-- The file.  There are no views and no triggers: nothing makes one. -/
structure Database where
  entries : List SchemaEntry
  distinct : (entries.map fun entry => entry.object.name).Nodup

/-- What SQLite does with a table `_schema_version` that is not the one of the
ladder: the result of the query, if it is an integer, and the row that an
insertion adds, if it succeeds. -/
structure Sqlite where
  maxVersion : List Column → List (List Cell) → Option Int
  insertVersion : List Column → List (List Cell) → Int → Option (List Cell)

namespace Database

def objects (database : Database) : List SchemaObject :=
  database.entries.map SchemaEntry.object

def find? (database : Database) (name : String) : Option SchemaEntry :=
  database.entries.find? fun entry => entry.object.name == name

theorem not_mem_of_find?
    {database : Database} {name : String}
    (absent : database.find? name = none) :
    name ∉ database.entries.map fun entry => entry.object.name := by
  intro listed
  obtain ⟨entry, member, rfl⟩ := List.mem_map.mp listed
  have differs := List.find?_eq_none.mp absent entry member
  simp at differs

/-- A name that is taken is refused. -/
def create (database : Database) (object : SchemaObject) :
    Option Database :=
  if absent : database.find? object.name = none then
    some
      { entries := database.entries ++ [{ object, rows := [] }]
        distinct := by
          rw [List.map_append, List.nodup_append]
          refine ⟨database.distinct, List.nodup_singleton _, ?_⟩
          intro name listed other isNew same
          rw [List.map_singleton, List.mem_singleton] at isNew
          apply not_mem_of_find? absent
          rw [← isNew, ← same]
          exact listed }
  else
    none

def appendRow (database : Database) (name : String) (row : List Cell) :
    Database where
  entries := database.entries.map fun entry =>
    if entry.object.name = name then
      { entry with rows := entry.rows ++ [row] }
    else
      entry
  distinct := by
    rw [List.map_map]
    refine (List.map_congr_left ?_).symm ▸ database.distinct
    intro entry _
    simp only [Function.comp_apply]
    split
    · rfl
    · rfl

end Database

/-! ## The ladder -/

def currentVersion : Int :=
  1

def versionColumns : List Column :=
  [⟨"version", "INTEGER NOT NULL PRIMARY KEY"⟩]

def conversationColumns : List Column :=
  [⟨"conversation_id", "TEXT NOT NULL PRIMARY KEY"⟩,
    ⟨"acp_session_id", "TEXT NOT NULL"⟩, ⟨"cwd", "TEXT NOT NULL"⟩,
    ⟨"caller_id", "TEXT NOT NULL DEFAULT 'anonymous'"⟩,
    ⟨"created_at", "INTEGER NOT NULL"⟩,
    ⟨"last_used_at", "INTEGER NOT NULL"⟩]

def taskColumns : List Column :=
  [⟨"task_id", "TEXT NOT NULL PRIMARY KEY"⟩,
    ⟨"conversation_id",
      "TEXT NOT NULL REFERENCES conversations(conversation_id) ON DELETE CASCADE"⟩,
    ⟨"state", "TEXT NOT NULL"⟩, ⟨"created_at", "INTEGER NOT NULL"⟩,
    ⟨"terminal_at", "INTEGER"⟩]

def pushConfigColumns : List Column :=
  [⟨"config_id", "TEXT NOT NULL PRIMARY KEY"⟩,
    ⟨"task_id", "TEXT NOT NULL REFERENCES tasks(task_id) ON DELETE CASCADE"⟩,
    ⟨"url", "TEXT NOT NULL"⟩, ⟨"token", "TEXT"⟩, ⟨"auth_scheme", "TEXT"⟩,
    ⟨"auth_credentials", "TEXT"⟩, ⟨"tenant", "TEXT"⟩,
    ⟨"created_at", "INTEGER NOT NULL"⟩]

inductive SqlStatement where
  | createTable (ifNotExists : Bool) (name : String) (columns : List Column)
  | createIndex (name table column : String)
  | selectVersion
  | insertVersion (version : Int)
  deriving DecidableEq, Repr

namespace Migration

def versionTable : SchemaObject :=
  .table "_schema_version" versionColumns

/-- The rows of the ladder's own table. -/
def versionOf : List Cell → Option Int
  | [.integer version] => some version
  | _ => none

/-- `SELECT COALESCE(MAX(version), 0) FROM _schema_version`, or zero. -/
def readVersion (sqlite : Sqlite) (database : Database) : Int :=
  match database.find? "_schema_version" with
  | some ⟨.table _ columns, rows⟩ =>
      if columns = versionColumns then
        ((rows.filterMap versionOf).max?).getD 0
      else
        (sqlite.maxVersion columns rows).getD 0
  | _ => 0

def hasTable (database : Database) (name : String) : Bool :=
  match database.find? name with
  | some ⟨.table _ _, _⟩ => true
  | _ => false

def hasColumn (database : Database) (table column : String) : Bool :=
  match database.find? table with
  | some ⟨.table _ columns, _⟩ => columns.any fun found => found.name == column
  | _ => false

/-- The database after the statement, if it succeeds. -/
def execute (sqlite : Sqlite) : SqlStatement → Database → Option Database
  | .createTable ifNotExists name columns, database =>
      if ifNotExists && hasTable database name then some database
      else database.create (.table name columns)
  | .createIndex name table column, database =>
      if hasColumn database table column then
        database.create (.index name table column)
      else
        none
  | .selectVersion, database => some database
  | .insertVersion version, database =>
      match database.find? "_schema_version" with
      | some ⟨.table _ columns, rows⟩ =>
          if columns = versionColumns then
            if rows.contains [.integer version] then none
            else some (database.appendRow "_schema_version" [.integer version])
          else
            (sqlite.insertVersion columns rows version).map
              (database.appendRow "_schema_version")
      | _ => none

def createVersionTable : SqlStatement :=
  .createTable true "_schema_version" versionColumns

/-- The batch of `apply_v1`. -/
def batch : List SqlStatement :=
  [.createTable false "conversations" conversationColumns,
    .createTable false "tasks" taskColumns,
    .createTable false "push_notification_configs" pushConfigColumns,
    .createIndex "idx_tasks_conversation" "tasks" "conversation_id",
    .createIndex "idx_push_configs_task" "push_notification_configs"
      "task_id"]

def applyV1 : List SqlStatement :=
  batch ++ [.insertVersion 1]

/-- The statements of a run.  The version is read when the table is there. -/
def ensureCurrent (sqlite : Sqlite) (database : Database) :
    List SqlStatement :=
  let created := (execute sqlite createVersionTable database).getD database
  [createVersionTable, .selectVersion] ++
    if readVersion sqlite created < 1 then applyV1 else []

/-! ## The schema, and the rows that were there -/

def versionOne : List SchemaObject :=
  [versionTable, .table "conversations" conversationColumns,
    .table "tasks" taskColumns,
    .table "push_notification_configs" pushConfigColumns,
    .index "idx_tasks_conversation" "tasks" "conversation_id",
    .index "idx_push_configs_task" "push_notification_configs" "task_id"]

/-- Exactly the schema of version 1, and the version says so. -/
structure Current (sqlite : Sqlite) (database : Database) : Prop where
  objects : database.objects.Perm versionOne
  version : readVersion sqlite database = currentVersion

/-- Every table is still there and begins with the rows it had. -/
def KeepsRows (before after : Database) : Prop :=
  ∀ entry, entry ∈ before.entries → ∃ kept, kept ∈ after.entries ∧
    kept.object = entry.object ∧ entry.rows <+: kept.rows

/-- The file after runs that are cut off, each after so many statements. -/
def afterCuts (sqlite : Sqlite) (cuts : List Nat) (database : Database) :
    Database :=
  Script.cutRuns (execute sqlite) (ensureCurrent sqlite) cuts database

/-- A run that is not cut off, and whether it succeeds. -/
def fullRun (sqlite : Sqlite) (database : Database) : Database × Bool :=
  Script.run (execute sqlite) (ensureCurrent sqlite database) database

/-- A further run succeeds and leaves the schema of version 1, with the rows
there were. -/
structure Survives (sqlite : Sqlite) (database : Database)
    (cuts : List Nat) : Prop where
  succeeds : (fullRun sqlite (afterCuts sqlite cuts database)).2 = true
  current :
    Current sqlite (fullRun sqlite (afterCuts sqlite cuts database)).1
  keepsRows :
    KeepsRows database (fullRun sqlite (afterCuts sqlite cuts database)).1

/-- There is nothing but the table of versions, if that, and no version. -/
structure Fresh (sqlite : Sqlite) (database : Database) : Prop where
  objects : ∀ object, object ∈ database.objects → object = versionTable
  version : readVersion sqlite database < 1

/-- The first run that gets to the batch gets through it, and to the version
after it. -/
def GetsThrough (cuts : List Nat) : Prop :=
  ∀ cut, cuts.find? (fun cut => decide (2 < cut)) = some cut → 8 ≤ cut

variable {sqlite : Sqlite} {database target : Database}
variable {statement : SqlStatement} {object : SchemaObject} {name : String}

/-! ## What a statement does -/

theorem entries_of_create
    (made : database.create object = some target) :
    database.find? object.name = none ∧
      target.entries = database.entries ++ [{ object, rows := [] }] := by
  unfold Database.create at made
  split at made
  · rename_i absent
    cases made
    exact ⟨absent, rfl⟩
  · cases made

theorem find?_of_create
    (made : database.create object = some target) :
    target.find? name =
      (database.find? name).or
        (if object.name = name then some { object, rows := [] }
        else none) := by
  rw [Database.find?, (entries_of_create made).2, List.find?_append]
  by_cases same : object.name = name
  · simp [Database.find?, same]
  · simp [Database.find?, same]

theorem KeepsRows.refl (database : Database) :
    KeepsRows database database := by
  intro entry member
  exact ⟨entry, member, rfl, List.prefix_refl _⟩

theorem KeepsRows.trans
    {first second third : Database}
    (before : KeepsRows first second) (after : KeepsRows second third) :
    KeepsRows first third := by
  intro entry member
  obtain ⟨middle, isMiddle, sameObject, isPrefix⟩ := before entry member
  obtain ⟨last, isLast, sameLast, isPrefixLast⟩ := after middle isMiddle
  exact ⟨last, isLast, sameLast.trans sameObject,
    isPrefix.trans isPrefixLast⟩

theorem keepsRows_create
    (made : database.create object = some target) :
    KeepsRows database target := by
  intro entry member
  refine ⟨entry, ?_, rfl, List.prefix_refl _⟩
  rw [(entries_of_create made).2]
  exact List.mem_append_left _ member

theorem keepsRows_appendRow (row : List Cell) :
    KeepsRows database (database.appendRow name row) := by
  intro entry member
  refine ⟨_, List.mem_map_of_mem member, ?_⟩
  split
  · exact ⟨rfl, List.prefix_append _ _⟩
  · exact ⟨rfl, List.prefix_refl _⟩

/-- Every statement leaves the rows that are there. -/
theorem keepsRows_execute
    (executed : execute sqlite statement database = some target) :
    KeepsRows database target := by
  cases statement with
  | createTable ifNotExists name columns =>
      simp only [execute] at executed
      split at executed
      · cases executed
        exact KeepsRows.refl database
      · exact keepsRows_create executed
  | createIndex name table column =>
      simp only [execute] at executed
      split at executed
      · exact keepsRows_create executed
      · cases executed
  | selectVersion =>
      cases executed
      exact KeepsRows.refl database
  | insertVersion version =>
      simp only [execute] at executed
      split at executed
      · split at executed
        · split at executed
          · cases executed
          · cases executed
            exact keepsRows_appendRow _
        · obtain ⟨row, _, rfl⟩ := Option.map_eq_some_iff.mp executed
          exact keepsRows_appendRow row
      · cases executed

/-- A table of versions that has just been made holds no version. -/
theorem readVersion_create
    (made : database.create object = some target)
    (isOwn : object.name = "_schema_version" → object = versionTable) :
    readVersion sqlite target = readVersion sqlite database := by
  have absent := (entries_of_create made).1
  rw [readVersion, find?_of_create made]
  by_cases same : object.name = "_schema_version"
  · rw [same] at absent
    rw [if_pos same, absent, isOwn same, readVersion, absent]
    rfl
  · rw [if_neg same, Option.or_none]
    rfl

/-- The statements that are not about the version leave it. -/
theorem readVersion_execute
    (member : statement ∈ [createVersionTable, .selectVersion] ++ batch)
    (executed : execute sqlite statement database = some target) :
    readVersion sqlite target = readVersion sqlite database := by
  cases statement with
  | createTable ifNotExists name columns =>
      simp only [execute] at executed
      split at executed
      · cases executed
        rfl
      · refine readVersion_create executed ?_
        intro isVersions
        simp only [SchemaObject.name] at isVersions
        subst isVersions
        have own : ifNotExists = true ∧ columns = versionColumns := by
          simpa [createVersionTable, batch] using member
        rw [versionTable, own.2]
  | createIndex name table column =>
      simp only [execute] at executed
      split at executed
      · refine readVersion_create executed ?_
        intro isVersions
        simp only [SchemaObject.name] at isVersions
        subst isVersions
        simp [createVersionTable, batch] at member
      · cases executed
  | selectVersion =>
      cases executed
      rfl
  | insertVersion version => simp [createVersionTable, batch] at member

theorem readVersion_created :
    readVersion sqlite
        ((execute sqlite createVersionTable database).getD database) =
      readVersion sqlite database := by
  cases executed : execute sqlite createVersionTable database with
  | none => rfl
  | some target => exact readVersion_execute List.mem_cons_self executed

theorem ensureCurrent_eq :
    ensureCurrent sqlite database =
      [createVersionTable, .selectVersion] ++
        if readVersion sqlite database < 1 then applyV1 else [] := by
  rw [ensureCurrent, readVersion_created]

/-! ## What a run leaves as it is -/

def cutRun (sqlite : Sqlite) (cut : Nat) (database : Database) : Database :=
  Script.cutRun (execute sqlite) (ensureCurrent sqlite) cut database

theorem keepsRows_run (script : List SqlStatement) :
    KeepsRows database (Script.run (execute sqlite) script database).1 := by
  refine Script.invariant (KeepsRows database) (KeepsRows.refl database) ?_
  intro statement _ source target kept executed
  exact kept.trans (keepsRows_execute executed)

theorem keepsRows_afterCuts (cuts : List Nat) :
    KeepsRows database (afterCuts sqlite cuts database) := by
  refine Script.cutRuns_invariant (KeepsRows database)
    (KeepsRows.refl database) ?_
  intro cut source kept
  exact kept.trans (keepsRows_run _)

theorem keepsRows_fullRun :
    KeepsRows database (fullRun sqlite database).1 :=
  keepsRows_run _

theorem KeepsRows.mem_objects
    (kept : KeepsRows database target)
    (member : object ∈ database.objects) : object ∈ target.objects := by
  obtain ⟨entry, isEntry, rfl⟩ := List.mem_map.mp member
  obtain ⟨other, isOther, sameObject, _⟩ := kept entry isEntry
  rw [← sameObject]
  exact List.mem_map_of_mem isOther

/-! ## Databases that no run gets through -/

/-- The statements before the version is written. -/
def untilVersion : List SqlStatement :=
  [createVersionTable, .selectVersion] ++ batch

def batchNames : List String :=
  ["conversations", "tasks", "push_notification_configs",
    "idx_tasks_conversation", "idx_push_configs_task"]

/-- A name of the batch is taken, and there is no version. -/
structure Blocked (sqlite : Sqlite) (database : Database) : Prop where
  version : readVersion sqlite database < 1
  taken : ∃ object, object ∈ database.objects ∧ object.name ∈ batchNames

/-- There is something that is not in the schema of version 1. -/
def Foreign (database : Database) : Prop :=
  ∃ object, object ∈ database.objects ∧ object ∉ versionOne

/-- The version is written, and something is wrong. -/
structure Ahead (sqlite : Sqlite) (database : Database) : Prop where
  version : 1 ≤ readVersion sqlite database
  notCurrent : ¬ Current sqlite database

theorem create_of_taken
    {other : SchemaObject} (member : other ∈ database.objects)
    (same : other.name = object.name) : database.create object = none := by
  cases made : database.create object with
  | none => rfl
  | some target =>
      have absent := (entries_of_create made).1
      obtain ⟨entry, isEntry, rfl⟩ := List.mem_map.mp member
      have differs := List.find?_eq_none.mp absent entry isEntry
      simp [same] at differs

theorem createTable_of_taken
    {columns : List Column} (member : object ∈ database.objects)
    (isName : object.name = name) :
    execute sqlite (.createTable false name columns) database = none :=
  create_of_taken member isName

theorem createIndex_of_taken
    {table column : String} (member : object ∈ database.objects)
    (isName : object.name = name) :
    execute sqlite (.createIndex name table column) database = none := by
  simp only [execute]
  split
  · exact create_of_taken member isName
  · rfl

/-- One of the statements of the batch takes the name. -/
theorem refused_of_taken
    (taken : object.name ∈ batchNames) :
    ∃ statement, statement ∈ untilVersion ∧
      ∀ database, object ∈ Database.objects database →
        execute sqlite statement database = none := by
  simp only [batchNames, List.mem_cons, List.not_mem_nil, or_false] at taken
  rcases taken with conversations | tasks | pushConfigs | byConversation |
    byTask
  · exact ⟨.createTable false "conversations" conversationColumns,
      by simp [untilVersion, batch],
      fun _ member => createTable_of_taken member conversations⟩
  · exact ⟨.createTable false "tasks" taskColumns,
      by simp [untilVersion, batch],
      fun _ member => createTable_of_taken member tasks⟩
  · exact ⟨.createTable false "push_notification_configs" pushConfigColumns,
      by simp [untilVersion, batch],
      fun _ member => createTable_of_taken member pushConfigs⟩
  · exact ⟨.createIndex "idx_tasks_conversation" "tasks" "conversation_id",
      by simp [untilVersion, batch],
      fun _ member => createIndex_of_taken member byConversation⟩
  · exact ⟨.createIndex "idx_push_configs_task" "push_notification_configs"
      "task_id", by simp [untilVersion, batch],
      fun _ member => createIndex_of_taken member byTask⟩

theorem Blocked.step
    (blocked : Blocked sqlite database) (member : statement ∈ untilVersion)
    (executed : execute sqlite statement database = some target) :
    Blocked sqlite target := by
  obtain ⟨object, isObject, taken⟩ := blocked.taken
  refine ⟨?_, object, (keepsRows_execute executed).mem_objects isObject,
    taken⟩
  rw [readVersion_execute member executed]
  exact blocked.version

theorem Blocked.run_prefix
    (blocked : Blocked sqlite database) {script : List SqlStatement}
    (isPart : ∀ statement, statement ∈ script → statement ∈ untilVersion) :
    Blocked sqlite (Script.run (execute sqlite) script database).1 := by
  refine Script.invariant (Blocked sqlite) blocked ?_
  intro statement member source target isBlocked executed
  exact isBlocked.step (isPart statement member) executed

theorem Blocked.run_fails (blocked : Blocked sqlite database) :
    (Script.run (execute sqlite) untilVersion database).2 = false := by
  obtain ⟨object, isObject, taken⟩ := blocked.taken
  obtain ⟨statement, isPart, refuses⟩ := @refused_of_taken sqlite _ taken
  refine Script.fails (fun source => object ∈ source.objects) isObject ?_
    isPart ?_
  · intro other _ source target member executed
    exact (keepsRows_execute executed).mem_objects member
  · intro source member
    exact refuses source member

theorem ensureCurrent_of_lt
    (noVersion : readVersion sqlite database < 1) :
    ensureCurrent sqlite database = untilVersion ++ [.insertVersion 1] := by
  rw [ensureCurrent_eq, if_pos noVersion, applyV1, ← List.append_assoc]
  rfl

theorem fullRun_of_lt
    (noVersion : readVersion sqlite database < 1) :
    fullRun sqlite database =
      Script.run (execute sqlite) (untilVersion ++ [.insertVersion 1])
        database := by
  rw [fullRun, ensureCurrent_of_lt noVersion]

/-- A run begins with the statements before the version, and may end with
them. -/
theorem take_ensureCurrent
    (noVersion : readVersion sqlite database < 1) (cut : Nat) :
    (ensureCurrent sqlite database).take cut =
      if cut ≤ 7 then untilVersion.take cut
      else untilVersion ++ [.insertVersion 1] := by
  have length : untilVersion.length = 7 := rfl
  rw [ensureCurrent_of_lt noVersion]
  split
  · rename_i early
    exact List.take_append_of_le_length (by omega)
  · rename_i late
    apply List.take_of_length_le
    simp only [List.length_append, length, List.length_singleton]
    omega

theorem Blocked.cutRun
    (blocked : Blocked sqlite database) (cut : Nat) :
    Blocked sqlite (cutRun sqlite cut database) := by
  rw [Migration.cutRun, Script.cutRun, take_ensureCurrent blocked.version]
  split
  · apply blocked.run_prefix
    intro statement member
    exact List.mem_of_mem_take member
  · rw [Script.run_append, blocked.run_fails, if_neg Bool.false_ne_true]
    exact blocked.run_prefix fun _ member => member

theorem Blocked.not_succeeds (blocked : Blocked sqlite database) :
    (fullRun sqlite database).2 = false := by
  rw [fullRun_of_lt blocked.version, Script.run_append, blocked.run_fails,
    if_neg Bool.false_ne_true]
  exact blocked.run_fails

theorem Foreign.of_keepsRows
    (isForeign : Foreign database) (kept : KeepsRows database target) :
    Foreign target := by
  obtain ⟨object, member, notListed⟩ := isForeign
  exact ⟨object, kept.mem_objects member, notListed⟩

theorem Foreign.not_current (isForeign : Foreign database) :
    ¬ Current sqlite database := by
  intro current
  obtain ⟨object, member, notListed⟩ := isForeign
  exact notListed (current.objects.mem_iff.mp member)

/-- With a version written, no statement does anything. -/
theorem run_of_version
    (version : 1 ≤ readVersion sqlite database) (cut : Nat) :
    Script.run (execute sqlite) ((ensureCurrent sqlite database).take cut)
      database = (database, true) := by
  have isTable : hasTable database "_schema_version" = true := by
    unfold readVersion at version
    unfold hasTable
    split at version
    · rfl
    · omega
  have created : execute sqlite createVersionTable database =
      some database := by
    simp [execute, createVersionTable, isTable]
  rw [ensureCurrent_eq, if_neg (by omega), List.append_nil]
  match cut with
  | 0 => rfl
  | 1 => simp [Script.run, created]
  | cut + 2 =>
      rw [List.take_succ_cons, List.take_succ_cons, List.take_nil, Script.run,
        created]
      rfl

theorem cutRun_of_version
    (version : 1 ≤ readVersion sqlite database) (cut : Nat) :
    cutRun sqlite cut database = database := by
  rw [cutRun, Script.cutRun, run_of_version version]

theorem fullRun_of_version
    (version : 1 ≤ readVersion sqlite database) :
    fullRun sqlite database = (database, true) := by
  have run := run_of_version version (ensureCurrent sqlite database).length
  rw [List.take_length] at run
  exact run

/-! ## Fresh databases -/

theorem Fresh.entries (fresh : Fresh sqlite database) :
    database.entries = [] ∨
      ∃ rows, database.entries = [⟨versionTable, rows⟩] := by
  obtain ⟨entries, distinct⟩ := database
  have isVersions : ∀ entry, entry ∈ entries →
      entry.object = versionTable := fun entry member =>
    fresh.objects _ (List.mem_map_of_mem member)
  cases entries with
  | nil => exact .inl rfl
  | cons first rest =>
      right
      obtain ⟨object, rows⟩ := first
      obtain rfl : object = versionTable := isVersions _ List.mem_cons_self
      refine ⟨rows, ?_⟩
      cases rest with
      | nil => rfl
      | cons second others =>
          have same := isVersions second (by simp)
          simp [same] at distinct

/-- The table of versions is there after the first statement. -/
theorem Fresh.created (fresh : Fresh sqlite database) :
    ∃ rows target,
      execute sqlite createVersionTable database = some target ∧
        target.entries = [⟨versionTable, rows⟩] := by
  have shape := fresh.entries
  obtain ⟨entries, distinct⟩ := database
  rcases shape with rfl | ⟨rows, rfl⟩
  · exact ⟨[], _, rfl, rfl⟩
  · exact ⟨rows, _, rfl, rfl⟩

def versionOneEntries (rows : List (List Cell)) : List SchemaEntry :=
  ⟨versionTable, rows⟩ ::
    versionOne.tail.map fun object => ⟨object, []⟩

variable {rows : List (List Cell)}

theorem run_batch
    (single : database.entries = [⟨versionTable, rows⟩]) :
    ∃ target,
      Script.run (execute sqlite) (.selectVersion :: batch) database =
          (target, true) ∧
        target.entries = versionOneEntries rows := by
  obtain ⟨entries, distinct⟩ := database
  cases single
  exact ⟨_, rfl, rfl⟩

theorem run_first
    (single : database.entries = [⟨versionTable, rows⟩]) :
    ∃ target,
      Script.run (execute sqlite) (.selectVersion :: batch.take 1) database =
          (target, true) ∧
        ∃ object, object ∈ target.objects ∧ object.name ∈ batchNames := by
  obtain ⟨entries, distinct⟩ := database
  cases single
  exact ⟨_, rfl, .table "conversations" conversationColumns, .tail _ (.head _),
    .head _⟩

theorem readVersion_of_entries
    {others : List SchemaEntry}
    (whole : database.entries = ⟨versionTable, rows⟩ :: others) :
    readVersion sqlite database =
      ((rows.filterMap versionOf).max?).getD 0 := by
  simp [readVersion, Database.find?, whole, versionTable, SchemaObject.name]

theorem lt_one_of_max
    {versions : List Int} (noVersion : (versions.max?).getD 0 < 1) :
    ∀ version, version ∈ versions → version < 1 := by
  intro version member
  cases greatest : versions.max? with
  | none =>
      rw [List.max?_eq_none_iff.mp greatest] at member
      cases member
  | some found =>
      rw [greatest, Option.getD_some] at noVersion
      have least := (List.max?_eq_some_iff.mp greatest).2 version member
      omega

/-- Where no version is written, version 1 can be. -/
theorem execute_insertVersion
    (whole : database.entries = versionOneEntries rows)
    (noVersion : readVersion sqlite database < 1) :
    ∃ target, execute sqlite (.insertVersion 1) database = some target ∧
      target.entries = versionOneEntries (rows ++ [[.integer 1]]) := by
  rw [readVersion_of_entries whole] at noVersion
  have isNew : [Cell.integer 1] ∉ rows := by
    intro member
    have listed : (1 : Int) ∈ rows.filterMap versionOf :=
      List.mem_filterMap.mpr ⟨_, member, rfl⟩
    have below := lt_one_of_max noVersion 1 listed
    omega
  refine ⟨database.appendRow "_schema_version" [.integer 1], ?_, ?_⟩
  · simp [execute, Database.find?, whole, versionOneEntries, versionTable,
      SchemaObject.name, isNew]
  · simp only [Database.appendRow, whole]
    rfl

theorem current_of_entries
    (whole : database.entries = versionOneEntries (rows ++ [[.integer 1]]))
    (noVersion : ((rows.filterMap versionOf).max?).getD 0 < 1) :
    Current sqlite database := by
  refine ⟨?_, ?_⟩
  · rw [Database.objects, whole]
    exact List.Perm.refl _
  · have greatest : ((rows ++ [[Cell.integer 1]]).filterMap versionOf).max? =
        some 1 := by
      rw [List.filterMap_append, List.max?_eq_some_iff]
      refine ⟨List.mem_append_right _ List.mem_cons_self, ?_⟩
      intro version member
      rcases List.mem_append.mp member with old | new
      · exact Int.le_of_lt (lt_one_of_max noVersion version old)
      · exact Int.le_of_eq (List.mem_singleton.mp new)
    rw [readVersion_of_entries whole, greatest]
    rfl

/-- A run that gets through takes a fresh database to version 1. -/
theorem Fresh.run_whole (fresh : Fresh sqlite database) :
    ∃ target,
      Script.run (execute sqlite) (untilVersion ++ [.insertVersion 1])
          database = (target, true) ∧
        Current sqlite target := by
  obtain ⟨rows, created, executed, single⟩ := fresh.created
  obtain ⟨made, ran, whole⟩ := @run_batch sqlite created rows single
  have noVersion : readVersion sqlite made < 1 := by
    have sameVersion := @readVersion_execute sqlite database created
      createVersionTable List.mem_cons_self executed
    rw [readVersion_of_entries whole, ← readVersion_of_entries single,
      sameVersion]
    exact fresh.version
  obtain ⟨target, inserted, isTarget⟩ := execute_insertVersion whole noVersion
  refine ⟨target, ?_, ?_⟩
  · rw [Script.run_append]
    have before : Script.run (execute sqlite) untilVersion database =
        (made, true) := by
      rw [← ran, untilVersion, List.cons_append, Script.run, executed]
      rfl
    rw [before, if_pos rfl, Script.run, inserted]
    rfl
  · rw [readVersion_of_entries whole] at noVersion
    exact current_of_entries isTarget noVersion

theorem Fresh.run_prefix
    (fresh : Fresh sqlite database) {script : List SqlStatement}
    (isPart : ∀ statement, statement ∈ script → statement ∈ untilVersion) :
    readVersion sqlite (Script.run (execute sqlite) script database).1 < 1 := by
  refine Script.invariant (fun source => readVersion sqlite source < 1)
    fresh.version ?_
  intro statement member source target noVersion executed
  rw [readVersion_execute (isPart statement member) executed]
  exact noVersion

/-- Before the batch a fresh database stays fresh. -/
theorem Fresh.cutRun_early
    (fresh : Fresh sqlite database) {cut : Nat} (early : cut ≤ 2) :
    Fresh sqlite (cutRun sqlite cut database) := by
  obtain ⟨rows, created, executed, single⟩ := fresh.created
  have isFresh : Fresh sqlite created := by
    refine ⟨?_, ?_⟩
    · intro object member
      rw [Database.objects, single] at member
      exact List.mem_singleton.mp member
    · rw [readVersion_execute List.mem_cons_self executed]
      exact fresh.version
  rw [cutRun, Script.cutRun, take_ensureCurrent fresh.version,
    if_pos (by omega)]
  match cut with
  | 0 => exact fresh
  | 1 =>
      rw [untilVersion, List.cons_append, List.take_succ_cons, List.take_zero,
        Script.run, executed]
      exact isFresh
  | 2 =>
      rw [untilVersion, List.cons_append, List.take_succ_cons, Script.run,
        executed]
      exact isFresh

/-- Between the first table of the batch and the version the database gets
blocked. -/
theorem Fresh.cutRun_between
    (fresh : Fresh sqlite database) {cut : Nat} (late : 2 < cut)
    (early : cut < 8) : Blocked sqlite (cutRun sqlite cut database) := by
  obtain ⟨rows, created, executed, single⟩ := fresh.created
  obtain ⟨made, ran, object, isObject, taken⟩ :=
    @run_first sqlite created rows single
  rw [cutRun, Script.cutRun, take_ensureCurrent fresh.version,
    if_pos (by omega)]
  refine ⟨?_, object, ?_, taken⟩
  · apply fresh.run_prefix
    intro statement member
    exact List.mem_of_mem_take member
  · obtain ⟨more, rfl⟩ := Nat.exists_eq_add_of_lt late
    have split : untilVersion.take (2 + more + 1) =
        (createVersionTable :: .selectVersion :: batch.take 1) ++
          (batch.drop 1).take more := by
      have length : 2 + more + 1 = 3 + more := by omega
      rw [length, List.take_add]
      rfl
    have before : Script.run (execute sqlite)
        (createVersionTable :: .selectVersion :: batch.take 1) database =
          (made, true) := by
      rw [Script.run, executed]
      exact ran
    rw [split, Script.run_append, before, if_pos rfl]
    exact (keepsRows_run _).mem_objects isObject

theorem Fresh.cutRun_late
    (fresh : Fresh sqlite database) {cut : Nat} (late : 8 ≤ cut) :
    Current sqlite (cutRun sqlite cut database) := by
  obtain ⟨target, ran, current⟩ := fresh.run_whole
  rw [cutRun, Script.cutRun, take_ensureCurrent fresh.version,
    if_neg (by omega), ran]
  exact current

/-! ## Runs that are cut off -/

theorem Current.afterCuts
    (current : Current sqlite database) (cuts : List Nat) :
    afterCuts sqlite cuts database = database := by
  have version : 1 ≤ readVersion sqlite database := by
    rw [current.version]
    exact Int.le_refl 1
  refine Script.cutRuns_invariant (fun source => source = database) rfl ?_
  rintro cut _ rfl
  exact cutRun_of_version version cut

theorem Blocked.afterCuts
    (blocked : Blocked sqlite database) (cuts : List Nat) :
    Blocked sqlite (afterCuts sqlite cuts database) :=
  Script.cutRuns_invariant (Blocked sqlite) blocked
    fun cut _ isBlocked => isBlocked.cutRun cut

theorem Ahead.afterCuts
    (ahead : Ahead sqlite database) (cuts : List Nat) :
    afterCuts sqlite cuts database = database := by
  refine Script.cutRuns_invariant (fun source => source = database) rfl ?_
  rintro cut _ rfl
  exact cutRun_of_version ahead.version cut

/-- What the runs make of a fresh database. -/
theorem Fresh.afterCuts
    (fresh : Fresh sqlite database) (cuts : List Nat) :
    (GetsThrough cuts →
      Fresh sqlite (afterCuts sqlite cuts database) ∨
        Current sqlite (afterCuts sqlite cuts database)) ∧
      (¬ GetsThrough cuts →
        Blocked sqlite (afterCuts sqlite cuts database)) := by
  induction cuts generalizing database with
  | nil =>
      refine ⟨fun _ => .inl fresh, ?_⟩
      intro stuck
      exact absurd (by simp [GetsThrough]) stuck
  | cons cut rest inductionHypothesis =>
      have unfolded : Migration.afterCuts sqlite (cut :: rest) database =
          Migration.afterCuts sqlite rest (cutRun sqlite cut database) := rfl
      rw [unfolded]
      by_cases early : cut ≤ 2
      · have same : GetsThrough (cut :: rest) ↔ GetsThrough rest := by
          simp [GetsThrough, early]
        rw [same]
        exact inductionHypothesis (fresh.cutRun_early early)
      · have through : GetsThrough (cut :: rest) ↔ 8 ≤ cut := by
          simp [GetsThrough, Nat.lt_of_not_le early]
        rw [through]
        constructor
        · intro late
          have current := fresh.cutRun_late late
          rw [current.afterCuts]
          exact .inr current
        · intro between
          exact (fresh.cutRun_between (by omega) (by omega)).afterCuts rest

/-- Where neither holds, no run gets the database to version 1. -/
theorem lost_cases
    (notCurrent : ¬ Current sqlite database)
    (notFresh : ¬ Fresh sqlite database) :
    Foreign database ∨ Blocked sqlite database ∨ Ahead sqlite database := by
  by_cases version : 1 ≤ readVersion sqlite database
  · exact .inr (.inr ⟨version, notCurrent⟩)
  · have noVersion : readVersion sqlite database < 1 := by omega
    have more : ∃ object, object ∈ database.objects ∧
        object ≠ versionTable := by
      by_contra none
      apply notFresh
      refine ⟨?_, noVersion⟩
      intro object member
      by_contra isOther
      exact none ⟨object, member, isOther⟩
    obtain ⟨object, member, isOther⟩ := more
    by_cases listed : object ∈ versionOne
    · refine .inr (.inl ⟨noVersion, object, member, ?_⟩)
      simp only [versionOne, List.mem_cons, List.not_mem_nil, or_false]
        at listed
      rcases listed with same | rfl | rfl | rfl | rfl | rfl
      · exact absurd same isOther
      all_goals simp [batchNames, SchemaObject.name]
    · exact .inl ⟨object, member, listed⟩

theorem not_survives
    {cuts : List Nat}
    (lost : Foreign database ∨ Blocked sqlite database ∨
      Ahead sqlite database) :
    ¬ Survives sqlite database cuts := by
  intro survives
  rcases lost with isForeign | blocked | ahead
  · have still := isForeign.of_keepsRows survives.keepsRows
    exact still.not_current survives.current
  · have stuck := (blocked.afterCuts cuts).not_succeeds
    rw [survives.succeeds] at stuck
    cases stuck
  · have current := survives.current
    rw [ahead.afterCuts, fullRun_of_version ahead.version] at current
    exact ahead.notCurrent current

/-- A further run brings the database to version 1 exactly when it is there
already, or is fresh and no run before has been cut off between the first table
and the version. -/
theorem migration_survives_iff
    (sqlite : Sqlite) (database : Database) (cuts : List Nat) :
    Survives sqlite database cuts ↔
      Current sqlite database ∨
        (Fresh sqlite database ∧ GetsThrough cuts) := by
  have keepsRows : KeepsRows database
      (fullRun sqlite (afterCuts sqlite cuts database)).1 :=
    (keepsRows_afterCuts cuts).trans keepsRows_fullRun
  have ofCurrent : Current sqlite (afterCuts sqlite cuts database) →
      Survives sqlite database cuts := by
    intro current
    have version : 1 ≤ readVersion sqlite (afterCuts sqlite cuts database) := by
      rw [current.version]
      exact Int.le_refl 1
    have run := fullRun_of_version version
    refine ⟨by rw [run], ?_, keepsRows⟩
    rw [run]
    exact current
  constructor
  · intro survives
    by_cases current : Current sqlite database
    · exact .inl current
    · by_cases fresh : Fresh sqlite database
      · refine .inr ⟨fresh, ?_⟩
        by_contra stuck
        have blocked := (fresh.afterCuts cuts).2 stuck
        have fails := blocked.not_succeeds
        rw [survives.succeeds] at fails
        cases fails
      · exact absurd survives (not_survives (lost_cases current fresh))
  · rintro (current | ⟨fresh, through⟩)
    · apply ofCurrent
      rw [current.afterCuts]
      exact current
    · rcases (fresh.afterCuts cuts).1 through with stillFresh | current
      · obtain ⟨target, ran, current⟩ := stillFresh.run_whole
        have run : fullRun sqlite (afterCuts sqlite cuts database) =
            (target, true) :=
          (fullRun_of_lt stillFresh.version).trans ran
        refine ⟨by rw [run], ?_, keepsRows⟩
        rw [run]
        exact current
      · exact ofCurrent current

/-- An empty file. -/
def emptyFile : Database where
  entries := []
  distinct := List.nodup_nil

/-- A run that ends after the first table leaves a file that no further run
can migrate. -/
theorem cut_migration_stays_blocked :
    (∀ sqlite, (fullRun sqlite (afterCuts sqlite [3] emptyFile)).2 = false) ∧
      ¬ ∀ (sqlite : Sqlite) (database : Database) (cuts : List Nat),
        Survives sqlite database cuts := by
  have fails : ∀ sqlite,
      (fullRun sqlite (afterCuts sqlite [3] emptyFile)).2 = false :=
    fun sqlite => rfl
  refine ⟨fails, ?_⟩
  intro survives
  let sqlite : Sqlite := ⟨fun _ _ => none, fun _ _ _ => none⟩
  have succeeds := (survives sqlite emptyFile [3]).succeeds
  rw [fails sqlite] at succeeds
  cases succeeds

end Migration

end A2AShim
