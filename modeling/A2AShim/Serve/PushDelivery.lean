import Mathlib.Data.List.Nodup
import Mathlib.Logic.Function.Basic
import A2AShim.Serve.TaskRegistry

/-!
# Push notification configurations and delivery jobs

The in-memory registry of configurations, the payload of a delivery, and the
jobs `enqueue_push_for_terminal` sends to the workers.
-/

namespace A2AShim

structure PushNotificationConfig where
  configId : String
  taskId : String
  url : String
  token : Option String
  authScheme : Option String
  authCredentials : Option String
  tenant : Option String
  deriving DecidableEq, Repr

structure DeliveryJob where
  config : PushNotificationConfig
  payload : Value
  deriving DecidableEq, Repr

/-- The configurations of each Task, in the order of their insertion. -/
structure PushConfigRegistry where
  inner : String → List PushNotificationConfig

namespace PushConfigRegistry

def empty : PushConfigRegistry :=
  { inner := fun _ => [] }

/-- Insert or replace: a configuration of the same name, under the same Task,
goes out first. -/
def insert (registry : PushConfigRegistry) (config : PushNotificationConfig) :
    PushConfigRegistry :=
  { inner :=
      Function.update registry.inner config.taskId
        ((registry.inner config.taskId).filter
            (fun other => other.configId != config.configId) ++ [config]) }

def delete (registry : PushConfigRegistry) (configId : String) :
    PushConfigRegistry :=
  { inner := fun taskId =>
      (registry.inner taskId).filter fun config =>
        config.configId != configId }

def listForTask (registry : PushConfigRegistry) (taskId : String) :
    List PushNotificationConfig :=
  registry.inner taskId

/-- Every configuration stands under its Task, and once. -/
def Indexed (registry : PushConfigRegistry) : Prop :=
  ∀ taskId,
    (∀ config, config ∈ registry.listForTask taskId →
        config.taskId = taskId) ∧
      ((registry.listForTask taskId).map
        PushNotificationConfig.configId).Nodup

variable {registry : PushConfigRegistry} {config other : PushNotificationConfig}

theorem indexed_empty : Indexed empty := by
  intro taskId
  exact ⟨nofun, List.nodup_nil⟩

theorem listForTask_insert (taskId : String) :
    (registry.insert config).listForTask taskId =
      if taskId = config.taskId then
        (registry.listForTask taskId).filter
            (fun other => other.configId != config.configId) ++ [config]
      else
        registry.listForTask taskId := by
  unfold insert listForTask
  by_cases same : taskId = config.taskId
  · subst same
    simp
  · simp [same]

theorem Indexed.insert (indexed : registry.Indexed) :
    (registry.insert config).Indexed := by
  intro taskId
  rw [listForTask_insert]
  obtain ⟨own, distinct⟩ := indexed taskId
  by_cases same : taskId = config.taskId
  · rw [if_pos same]
    constructor
    · intro found member
      rcases List.mem_append.mp member with kept | last
      · exact own found (List.mem_filter.mp kept).1
      · rw [List.mem_singleton.mp last]
        exact same.symm
    · rw [List.map_append]
      apply List.Nodup.append
      · exact distinct.sublist (List.filter_sublist.map _)
      · exact List.nodup_singleton _
      · intro name kept last
        obtain ⟨found, member, rfl⟩ := List.mem_map.mp kept
        have differs := (List.mem_filter.mp member).2
        rw [List.mem_singleton.mp last] at differs
        simp at differs
  · rw [if_neg same]
    exact ⟨own, distinct⟩

theorem Indexed.delete (configId : String) (indexed : registry.Indexed) :
    (registry.delete configId).Indexed := by
  intro taskId
  obtain ⟨own, distinct⟩ := indexed taskId
  constructor
  · intro found member
    exact own found (List.mem_filter.mp member).1
  · exact distinct.sublist (List.filter_sublist.map _)

/-- An insertion replaces no other configuration than its namesake. -/
theorem mem_insert
    {taskId : String} (member : other ∈ registry.listForTask taskId)
    (kept : taskId = config.taskId → other.configId = config.configId →
      other = config) :
    other ∈ (registry.insert config).listForTask taskId := by
  rw [listForTask_insert]
  by_cases same : taskId = config.taskId
  · rw [if_pos same]
    by_cases namesake : other.configId = config.configId
    · rw [kept same namesake]
      exact List.mem_append_right _ (List.mem_singleton.mpr rfl)
    · refine List.mem_append_left _ (List.mem_filter.mpr ⟨member, ?_⟩)
      simpa using namesake
  · rw [if_neg same]
    exact member

theorem mem_delete
    {taskId configId : String} (member : other ∈ registry.listForTask taskId)
    (kept : other.configId ≠ configId) :
    other ∈ (registry.delete configId).listForTask taskId :=
  List.mem_filter.mpr ⟨member, by simpa using kept⟩

end PushConfigRegistry

namespace PushDelivery

/-- Rust's `{:0width}` on an integer; the sign counts. -/
def padded (width : Nat) (number : Int) : String :=
  let digits := toString number.natAbs
  if number < 0 then
    "-" ++ "".pushn '0' (width - 1 - digits.length) ++ digits
  else
    "".pushn '0' (width - digits.length) ++ digits

/-- Days since 1970-01-01 to year, month and day. -/
def civilFromDays (days : Int) : Int × Nat × Nat :=
  let z := days + 719468
  let era := (if 0 ≤ z then z else z - 146096).tdiv 146097
  let doe := (z - era * 146097).toNat
  let yoe := (doe - doe / 1460 + doe / 36524 - doe / 146096) / 365
  let y := (yoe : Int) + era * 400
  let doy := doe - (365 * yoe + yoe / 4 - yoe / 100)
  let mp := (5 * doy + 2) / 153
  let d := doy - (153 * mp + 2) / 5 + 1
  let m := if mp < 10 then mp + 3 else mp - 9
  (if m ≤ 2 then y + 1 else y, m, d)

def formatIso8601 (ms : Int) : String :=
  let secs := ms.tdiv 1000
  let days := secs.tdiv 86400
  let secsInDay := secs.tmod 86400
  let (y, m, d) := civilFromDays days
  let h := secsInDay.tdiv 3600
  let mi := (secsInDay.tmod 3600).tdiv 60
  let s := secsInDay.tmod 60
  padded 4 y ++ "-" ++ padded 2 m ++ "-" ++ padded 2 d ++ "T" ++ padded 2 h ++
    ":" ++ padded 2 mi ++ ":" ++ padded 2 s ++ "Z"

/-- `serde_json` keeps the members of an object sorted by name. -/
def buildStatusUpdatePayload (taskId state : String) (timestampMs : Int) :
    Value :=
  .object
    [("statusUpdate", .object
      [("final", .bool true),
        ("status", .object
          [("state", .string state),
            ("timestamp", .string (formatIso8601 timestampMs))]),
        ("taskId", .string taskId)])]

/-- `enqueue_push_for_terminal`: one job for each configuration of the Task.
A Task that is not terminal gets none. -/
def jobsForTerminal (configs : PushConfigRegistry) (snap : Task)
    (nowMs : Int) : List DeliveryJob :=
  if snap.status.state.isTerminal then
    (configs.listForTask snap.id.text).map fun config =>
      { config
        payload :=
          buildStatusUpdatePayload snap.id.text
            (TaskRegistry.stateStr snap.status.state) nowMs }
  else
    []

theorem config_of_mem_jobs
    {configs : PushConfigRegistry} {snap : Task} {now : Int}
    {job : DeliveryJob} (member : job ∈ jobsForTerminal configs snap now) :
    job.config ∈ configs.listForTask snap.id.text := by
  unfold jobsForTerminal at member
  split at member
  · obtain ⟨config, listed, rfl⟩ := List.mem_map.mp member
    exact listed
  · cases member

/-- A terminal Task gets one job for each of its configurations. -/
theorem jobsForTerminal_of_mem
    {configs : PushConfigRegistry} {snap : Task}
    {config : PushNotificationConfig} (now : Int) (indexed : configs.Indexed)
    (terminal : snap.status.state.isTerminal = true)
    (member : config ∈ configs.listForTask snap.id.text) :
    (jobsForTerminal configs snap now).filter
        (fun job => decide (job.config = config)) =
      [{ config
         payload :=
          buildStatusUpdatePayload snap.id.text
            (TaskRegistry.stateStr snap.status.state) now }] := by
  have distinct : (configs.listForTask snap.id.text).Nodup :=
    List.Nodup.of_map _ (indexed snap.id.text).2
  have once : (configs.listForTask snap.id.text).filter
      (fun other => decide (other = config)) = [config] := by
    rw [List.filter_eq, List.count_eq_one_of_mem distinct member]
    rfl
  unfold jobsForTerminal
  rw [if_pos terminal, List.filter_map]
  have sameTest :
      ((fun job : DeliveryJob => decide (job.config = config)) ∘
          fun other =>
            { config := other
              payload :=
                buildStatusUpdatePayload snap.id.text
                  (TaskRegistry.stateStr snap.status.state) now }) =
        fun other => decide (other = config) :=
    rfl
  rw [sameTest, once]
  rfl

example :
    formatIso8601 951827696789 = "2000-02-29T12:34:56Z" := by
  decide +kernel

end PushDelivery

end A2AShim
