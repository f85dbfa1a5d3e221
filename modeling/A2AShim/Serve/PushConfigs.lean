import A2AShim.Lib.Grouped
import A2AShim.Lib.Machine
import A2AShim.Serve.Persistence
import A2AShim.Serve.PushDelivery

/-!
# The registry of push configurations

The in-memory lists are written through to a table, if there is one.  The
lists are keyed by Task, but a configuration is looked up and deleted by its
id.
-/

namespace A2AShim

namespace PushNotificationConfig

def toRow (config : PushNotificationConfig) (now : Nat) : PushConfigRow :=
  { configId := config.configId
    taskId := config.taskId
    url := config.url
    token := config.token
    authScheme := config.authScheme
    authCredentials := config.authCredentials
    tenant := config.tenant
    createdAt := now }

def ofRow (row : PushConfigRow) : PushNotificationConfig :=
  { configId := row.configId
    taskId := row.taskId
    url := row.url
    token := row.token
    authScheme := row.authScheme
    authCredentials := row.authCredentials
    tenant := row.tenant }

end PushNotificationConfig

namespace Rows

def hasTask (rows : Rows) (taskId : String) : Bool :=
  rows.tasks.any fun row => row.taskId == taskId

/-- The statement fails on a Task that has no row. -/
def insertPushConfig (rows : Rows) (row : PushConfigRow) : Option Rows :=
  if rows.hasTask row.taskId then
    some { rows with
      pushConfigs :=
        rows.pushConfigs.filter
            (fun other => other.configId != row.configId) ++ [row] }
  else
    none

def deletePushConfig (rows : Rows) (configId : String) : Rows :=
  { rows with
    pushConfigs :=
      rows.pushConfigs.filter fun row => row.configId != configId }

def getPushConfig (rows : Rows) (configId : String) :
    Option PushConfigRow :=
  rows.pushConfigs.find? fun row => row.configId == configId

end Rows

/-- `keys` are the Tasks that have a list, and `rows` the tables, with
persistence. -/
structure PushConfigs where
  registry : PushConfigRegistry
  keys : List String
  rows : Option Rows

namespace PushConfigs

def new (rows : Option Rows) : PushConfigs :=
  { registry := .empty, keys := [], rows }

def insertInner (configs : PushConfigs) (config : PushNotificationConfig) :
    PushConfigs :=
  { configs with
    registry := configs.registry.insert config
    keys :=
      if config.taskId ∈ configs.keys then
        configs.keys
      else
        configs.keys ++ [config.taskId] }

def foreignKeyFailed : String :=
  "sqlite: FOREIGN KEY constraint failed"

def insert (configs : PushConfigs) (config : PushNotificationConfig)
    (now : Nat) : Except String PushConfigs :=
  match configs.rows with
  | none => .ok (configs.insertInner config)
  | some rows =>
      match rows.insertPushConfig (config.toRow now) with
      | none => .error foreignKeyFailed
      | some rows => .ok ({ configs with rows }.insertInner config)

/-- `scan` is the order in which the map is gone through. -/
def get (configs : PushConfigs) (scan : List String) (configId : String) :
    Option PushNotificationConfig :=
  (scan.findSome? fun taskId =>
      (configs.registry.listForTask taskId).find? fun config =>
        config.configId == configId).or
    ((configs.rows.bind fun rows => rows.getPushConfig configId).map
      PushNotificationConfig.ofRow)

def delete (configs : PushConfigs) (configId : String) : PushConfigs :=
  { configs with
    registry := configs.registry.delete configId
    rows := configs.rows.map fun rows => rows.deletePushConfig configId }

def listForTask (configs : PushConfigs) (taskId : String) :
    List PushNotificationConfig :=
  configs.registry.listForTask taskId

/-! ## Runs -/

/-- A deletion is that of a request, or of a worker at the threshold. -/
inductive Action where
  | insert (config : PushNotificationConfig) (now : Nat)
  | delete (configId : String)
  deriving DecidableEq

/-- `current` is the history: what has been inserted under an id most recently
and has not been deleted since. -/
structure Tracked where
  configs : PushConfigs
  current : String → Option PushNotificationConfig

def start (rows : Option Rows) : Tracked :=
  { configs := new rows, current := fun _ => none }

def step : Action → Tracked → Option Tracked
  | .insert config now, state =>
      match state.configs.insert config now with
      | .ok configs =>
          some
            { configs
              current :=
                Function.update state.current config.configId (some config) }
      | .error _ => some state
  | .delete configId, state =>
      some
        { configs := state.configs.delete configId
          current := Function.update state.current configId none }

/-- An insertion that succeeds puts a current id under another Task. -/
def Retargets (state : Tracked) (action : Action) : Prop :=
  ∃ config now configs old,
    action = .insert config now ∧
      state.configs.insert config now = .ok configs ∧
        state.current config.configId = some old ∧
          old.taskId ≠ config.taskId

/-! ## What an operation does -/

variable {configs target : PushConfigs} {config : PushNotificationConfig}
variable {configId : String} {now : Nat}

theorem insert_ok
    (inserted : configs.insert config now = .ok target) :
    target.registry = configs.registry.insert config ∧
      target.keys = (configs.insertInner config).keys ∧
        ((configs.rows = none ∧ target.rows = none) ∨
          ∃ rows, configs.rows = some rows ∧
            rows.hasTask config.taskId = true ∧
              target.rows = some { rows with
                pushConfigs :=
                  rows.pushConfigs.filter
                      (fun other => other.configId != config.configId) ++
                    [config.toRow now] }) := by
  unfold insert at inserted
  cases persisted : configs.rows with
  | none =>
      simp only [persisted, Except.ok.injEq] at inserted
      subst inserted
      exact ⟨rfl, rfl, .inl ⟨rfl, persisted⟩⟩
  | some rows =>
      simp only [persisted, Rows.insertPushConfig] at inserted
      split at inserted
      · cases inserted
      · rename_i written stored
        split at stored
        · rename_i hasTask
          cases stored
          cases inserted
          exact ⟨rfl, rfl, .inr ⟨rows, rfl, hasTask, rfl⟩⟩
        · cases stored

theorem insert_inner (registry : PushConfigRegistry)
    (config : PushNotificationConfig) :
    (registry.insert config).inner =
      Grouped.replace PushNotificationConfig.configId
        PushNotificationConfig.taskId registry.inner config :=
  rfl

theorem delete_inner (registry : PushConfigRegistry) (configId : String) :
    (registry.delete configId).inner =
      Grouped.remove PushNotificationConfig.configId registry.inner configId :=
  rfl

/-! ## The lists represent what is current -/

/-- The lists, and the table, hold the current configurations. -/
structure Sound (state : Tracked) : Prop where
  represents : Grouped.Represents PushNotificationConfig.configId
    PushNotificationConfig.taskId state.configs.registry.inner state.current
  covers : ∀ taskId, state.configs.registry.inner taskId ≠ [] →
    taskId ∈ state.configs.keys
  stored : ∀ rows, state.configs.rows = some rows → ∀ configId,
    (rows.getPushConfig configId).isSome = true →
      (state.current configId).isSome = true

theorem getPushConfig_isSome {rows : Rows} :
    (rows.getPushConfig configId).isSome = true ↔
      ∃ row, row ∈ rows.pushConfigs ∧ row.configId = configId := by
  simp [Rows.getPushConfig, List.find?_isSome]

theorem sound_start
    {rows : Option Rows}
    (noConfigs : ∀ tables, rows = some tables → tables.pushConfigs = []) :
    Sound (start rows) := by
  refine ⟨Grouped.represents_empty, fun _ some => absurd rfl some, ?_⟩
  intro tables isRows configId isStored
  obtain ⟨row, member, _⟩ := getPushConfig_isSome.mp isStored
  rw [noConfigs tables isRows] at member
  cases member

theorem covers_insert
    (covers : ∀ taskId, configs.registry.inner taskId ≠ [] →
      taskId ∈ configs.keys) (taskId : String)
    (some : (configs.registry.insert config).inner taskId ≠ []) :
    taskId ∈ (configs.insertInner config).keys := by
  have kept : ∀ tested, tested ∈ configs.keys →
      tested ∈ (configs.insertInner config).keys := by
    intro tested member
    simp only [insertInner]
    split
    · exact member
    · exact List.mem_append_left _ member
  by_cases same : taskId = config.taskId
  · subst same
    simp only [insertInner]
    split
    · assumption
    · exact List.mem_append_right _ (List.mem_singleton.mpr rfl)
  · apply kept
    apply covers
    rw [insert_inner, Grouped.replace, Function.update_of_ne same] at some
    exact some

theorem covers_delete
    (covers : ∀ taskId, configs.registry.inner taskId ≠ [] →
      taskId ∈ configs.keys) (taskId : String)
    (some : (configs.registry.delete configId).inner taskId ≠ []) :
    taskId ∈ configs.keys := by
  apply covers
  intro empty
  simp [delete_inner, Grouped.remove, empty] at some

theorem Sound.insert
    {state : Tracked} (sound : Sound state)
    (keeps : ∀ old, state.current config.configId = some old →
      old.taskId = config.taskId)
    (inserted : state.configs.insert config now = .ok target) :
    Sound
      { configs := target
        current :=
          Function.update state.current config.configId (some config) } := by
  obtain ⟨registry, keys, rows⟩ := insert_ok inserted
  refine ⟨?_, ?_, ?_⟩
  · simp only [registry, insert_inner]
    exact sound.represents.replace keeps
  · intro taskId some
    simp only [registry] at some
    simp only [keys]
    exact covers_insert sound.covers taskId some
  · intro tables isRows configId isStored
    by_cases same : configId = config.configId
    · subst same
      simp
    · simp only [Function.update_of_ne same]
      rcases rows with ⟨_, none⟩ | ⟨before, wasRows, _, isWritten⟩
      · rw [none] at isRows
        cases isRows
      · rw [isWritten] at isRows
        cases isRows
        apply sound.stored before wasRows
        obtain ⟨row, member, isId⟩ := getPushConfig_isSome.mp isStored
        rcases List.mem_append.mp member with old | new
        · exact getPushConfig_isSome.mpr ⟨row, (List.mem_filter.mp old).1, isId⟩
        · rw [List.mem_singleton.mp new] at isId
          exact absurd isId.symm same

theorem Sound.delete
    {state : Tracked} (sound : Sound state) (configId : String) :
    Sound
      { configs := state.configs.delete configId
        current := Function.update state.current configId none } := by
  refine ⟨sound.represents.remove configId, covers_delete sound.covers, ?_⟩
  intro tables isRows tested isStored
  obtain ⟨before, wasRows, rfl⟩ := Option.map_eq_some_iff.mp isRows
  obtain ⟨row, member, isId⟩ := getPushConfig_isSome.mp isStored
  obtain ⟨wasStored, differs⟩ := List.mem_filter.mp member
  have notDeleted : tested ≠ configId := by
    rw [← isId]
    simpa using differs
  simp only [Function.update_of_ne notDeleted]
  exact sound.stored before wasRows tested
    (getPushConfig_isSome.mpr ⟨row, wasStored, isId⟩)

theorem sound_step
    {state next : Tracked} {action : Action}
    (sound : Sound state) (permitted : ¬ Retargets state action)
    (taken : step action state = some next) : Sound next := by
  cases action with
  | insert config now =>
      simp only [step] at taken
      split at taken
      · rename_i configs inserted
        cases taken
        refine sound.insert ?_ inserted
        intro old held
        by_contra moved
        exact permitted ⟨config, now, configs, old, rfl, inserted, held, moved⟩
      · cases taken
        exact sound
  | delete configId =>
      cases taken
      exact sound.delete configId

/-- Every id is in one list at most and once, `get` returns the current
configuration, and the list of a Task holds those that are current. -/
structure UniqueAndCurrent (configs : PushConfigs)
    (current : String → Option PushNotificationConfig) : Prop where
  once : ∀ taskId,
    ((configs.listForTask taskId).map
      PushNotificationConfig.configId).Nodup
  unique : ∀ taskId otherTask config other,
    config ∈ configs.listForTask taskId →
      other ∈ configs.listForTask otherTask →
        config.configId = other.configId → taskId = otherTask
  get : ∀ scan, scan.Perm configs.keys → ∀ configId,
    configs.get scan configId = current configId
  list : ∀ taskId config,
    config ∈ configs.listForTask taskId ↔
      current config.configId = some config ∧ config.taskId = taskId

theorem uniqueAndCurrent_of_sound
    {state : Tracked} (sound : Sound state) :
    UniqueAndCurrent state.configs state.current := by
  refine ⟨sound.represents.nodup, ?_, ?_, sound.represents.mem_iff⟩
  · intro taskId otherTask config other member otherMember namesake
    exact (sound.represents.group_eq member otherMember namesake).2
  · intro scan isScan configId
    have covers : ∀ taskId, state.configs.registry.inner taskId ≠ [] →
        taskId ∈ scan :=
      fun taskId some => isScan.mem_iff.mpr (sound.covers taskId some)
    unfold get
    simp only [PushConfigRegistry.listForTask]
    rw [sound.represents.findSome_eq covers configId]
    cases held : state.current configId with
    | some config => rfl
    | none =>
        cases persisted : state.configs.rows with
        | none => rfl
        | some rows =>
            have absent : rows.getPushConfig configId = none := by
              cases stored : rows.getPushConfig configId with
              | none => rfl
              | some row =>
                  have isCurrent := sound.stored rows persisted configId
                    (by rw [stored]; rfl)
                  rw [held] at isCurrent
                  cases isCurrent
            simp [absent]

/-- In a run that moves no current id to another Task, ids are unique and
current. -/
theorem ids_unique_and_current
    {rows : Option Rows} {trace : List Action} {state : Tracked}
    (noConfigs : ∀ tables, rows = some tables → tables.pushConfigs = [])
    (run : Machine.Run step (fun state action => ¬ Retargets state action)
      (start rows) trace state) :
    UniqueAndCurrent state.configs state.current :=
  uniqueAndCurrent_of_sound
    (run.invariant Sound (sound_start noConfigs)
      fun _ _ _ sound permitted taken => sound_step sound permitted taken)

def hook (configId taskId url : String) : PushNotificationConfig :=
  { configId, taskId, url, token := none, authScheme := none
    authCredentials := none, tenant := none }

/-- The Task of the id does not change. -/
def keepsTask (state : Tracked) : Action → Bool
  | .insert config _ =>
      (state.current config.configId).all fun old =>
        old.taskId == config.taskId
  | .delete _ => true

theorem not_retargets_of_keepsTask
    {state : Tracked} {action : Action}
    (keeps : keepsTask state action = true) : ¬ Retargets state action := by
  intro given
  rcases given with ⟨config, now, configs, old, rfl, _, held, moved⟩
  simp [keepsTask, held, moved] at keeps

theorem replaced_config_is_current :
    ∃ state : Tracked,
      state.configs.listForTask "t" = [hook "a" "t" "http://new"] ∧
        UniqueAndCurrent state.configs state.current := by
  have executes :
      (Machine.execTested step keepsTask
        [.insert (hook "a" "t" "http://old") 1,
          .insert (hook "b" "u" "http://old") 2,
          .insert (hook "a" "t" "http://new") 3, .delete "b"]
        (start none)).map (fun state => state.configs.listForTask "t") =
        some [hook "a" "t" "http://new"] := by
    decide +kernel
  obtain ⟨state, executed, listed⟩ := Option.map_eq_some_iff.mp executes
  exact ⟨state, listed, @ids_unique_and_current none _ _
    (fun _ isRows => nomatch isRows)
    (Machine.run_of_execTested
      (fun _ _ keeps => not_retargets_of_keepsTask keeps) executed)⟩

/-- An id that moves to another Task stays in the list of the first. -/
theorem retargeted_id_occurs_twice :
    ¬ ∀ rows trace (state : Tracked),
        (∀ tables, rows = some tables → tables.pushConfigs = []) →
          Machine.Run step Machine.free (start rows) trace state →
            UniqueAndCurrent state.configs state.current := by
  intro claimed
  have executes :
      (Machine.exec step
        [.insert (hook "a" "t" "http://h") 1,
          .insert (hook "a" "u" "http://h") 2]
        (start none)).map (fun state =>
          (state.configs.listForTask "t", state.configs.listForTask "u")) =
        some ([hook "a" "t" "http://h"], [hook "a" "u" "http://h"]) := by
    decide +kernel
  obtain ⟨state, executed, listed⟩ := Option.map_eq_some_iff.mp executes
  simp only [Prod.mk.injEq] at listed
  have unique := (claimed none _ state (fun _ isRows => nomatch isRows)
    (Machine.run_of_exec executed)).unique "t" "u" (hook "a" "t" "http://h")
    (hook "a" "u" "http://h")
  rw [listed.1, listed.2] at unique
  have same := unique (List.mem_singleton.mpr rfl)
    (List.mem_singleton.mpr rfl) rfl
  revert same
  decide

end PushConfigs

end A2AShim
