import A2AShim.Serve.PushConfigs

/-!
# Configurations that are rejected too often

A worker counts the rejections of a configuration and deletes it when the
count reaches the threshold.  The counts are in a table of their own: a
delivery that succeeds and a deletion remove the count, a delivery that is
dropped and an insertion leave it as it is.
-/

namespace A2AShim

inductive DeliveryOutcome where
  | success
  | permanentFailure
  | dropped
  deriving DecidableEq, Repr

/-- `workers` says which id a worker is about to delete.  `history` are the
outcomes since a configuration was created under an id. -/
structure Watched where
  threshold : Nat
  configs : PushConfigs
  counts : String → Option Nat
  workers : Nat → Option String
  history : String → List DeliveryOutcome

namespace PushFailures

open DeliveryOutcome

def count (state : Watched) (configId : String) : Nat :=
  (state.counts configId).getD 0

/-- The count is a `u32`. -/
def recordPermanentFailure (state : Watched) (configId : String) :
    Bool × Watched :=
  let counted := (count state configId + 1) % 2 ^ 32
  (state.threshold ≤ counted,
    { state with
      counts := Function.update state.counts configId (some counted) })

def resetFailureCount (state : Watched) (configId : String) : Watched :=
  { state with counts := Function.update state.counts configId none }

def delete (state : Watched) (configId : String) : Watched :=
  { state with
    configs := state.configs.delete configId
    counts := Function.update state.counts configId none
    history := Function.update state.history configId [] }

inductive Action where
  | outcome (worker : Nat) (configId : String) (outcome : DeliveryOutcome)
  | workerDelete (worker : Nat)
  | insert (config : PushNotificationConfig) (now : Nat)
  | delete (configId : String)
  deriving DecidableEq

/-- The outcome of a delivery, as the worker loop handles it. -/
def handle (state : Watched) (worker : Nat) (configId : String) :
    DeliveryOutcome → Watched
  | .success => resetFailureCount state configId
  | .permanentFailure =>
      let (shouldDelete, recorded) := recordPermanentFailure state configId
      if shouldDelete then
        { recorded with
          workers := Function.update recorded.workers worker (some configId) }
      else
        recorded
  | .dropped => state

def remember (state : Watched) (configId : String)
    (outcome : DeliveryOutcome) : Watched :=
  { state with
    history :=
      Function.update state.history configId
        (state.history configId ++ [outcome]) }

def step : Action → Watched → Option Watched
  | .outcome worker configId outcome, state =>
      match state.workers worker with
      | some _ => none
      | none =>
          some (handle (remember state configId outcome) worker configId
            outcome)
  | .workerDelete worker, state =>
      (state.workers worker).map fun configId =>
        { delete state configId with
          workers := Function.update state.workers worker none }
  | .insert config now, state =>
      match state.configs.insert config now with
      | .ok configs =>
          some
            { state with
              configs
              history := Function.update state.history config.configId [] }
      | .error _ => some state
  | .delete configId, state => some (delete state configId)

def start (threshold : Nat) (rows : Option Rows) : Watched :=
  { threshold
    configs := .new rows
    counts := fun _ => none
    workers := fun _ => none
    history := fun _ => [] }

/-! ## Last outcomes -/

/-- There is a configuration under the id. -/
def Present (configs : PushConfigs) (configId : String) : Prop :=
  ∃ taskId config, config ∈ configs.listForTask taskId ∧
    config.configId = configId

/-- The last `threshold` outcomes are all rejections. -/
def Rejected (threshold : Nat) (history : List DeliveryOutcome) : Prop :=
  List.replicate threshold .permanentFailure <:+ history

def Deleting (state : Watched) (configId : String) : Prop :=
  ∃ worker, state.workers worker = some configId

/-- A worker is deleting a configuration exactly when its last outcomes are
rejections. -/
def DeletesRejected (state : Watched) : Prop :=
  ∀ configId, Present state.configs configId →
    (Deleting state configId ↔
      Rejected state.threshold (state.history configId))

/-- The count goes stale: a drop or an insertion leaves it above zero, or a
worker has decided to delete the id before a drop, an insertion or a success,
or the count overflows. -/
def GoesStale (state : Watched) : Action → Prop
  | .outcome _ configId .success => Deleting state configId
  | .outcome _ configId .dropped =>
      count state configId ≠ 0 ∨ Deleting state configId
  | .outcome _ configId .permanentFailure =>
      2 ^ 32 ≤ count state configId + 1
  | .insert config now =>
      (∃ configs, state.configs.insert config now = .ok configs) ∧
        (count state config.configId ≠ 0 ∨ Deleting state config.configId)
  | _ => False

/-! ## The count is the number of last rejections -/

theorem replicate_suffix_snoc
    {α : Type} (number : Nat) (item last : α) (items : List α) :
    List.replicate (number + 1) item <:+ items ++ [last] ↔
      last = item ∧ List.replicate number item <:+ items := by
  rw [List.replicate_succ', List.suffix_concat_iff]
  constructor
  · intro isSuffix
    rcases isSuffix with empty | ⟨front, split, isSuffix⟩
    · simp at empty
    · obtain ⟨rfl, same⟩ := List.append_inj' split rfl
      cases same
      exact ⟨rfl, isSuffix⟩
  · intro given
    rcases given with ⟨rfl, isSuffix⟩
    exact .inr ⟨_, rfl, isSuffix⟩

/-- The history ends with that many rejections, and no more. -/
def Counts (number : Nat) (history : List DeliveryOutcome) : Prop :=
  ∀ tested, Rejected tested history ↔ tested ≤ number

theorem counts_nil : Counts 0 [] := by
  intro tested
  cases tested with
  | zero => simp [Rejected]
  | succ tested => simp [Rejected]

theorem Counts.rejected
    {number : Nat} {history : List DeliveryOutcome}
    (counts : Counts number history) :
    Counts (number + 1) (history ++ [.permanentFailure]) := by
  intro tested
  cases tested with
  | zero => simp [Rejected]
  | succ tested =>
      have before := counts tested
      rw [Rejected] at before
      rw [Rejected, replicate_suffix_snoc, before]
      simp

theorem counts_other
    {outcome : DeliveryOutcome} (isOther : outcome ≠ .permanentFailure)
    (history : List DeliveryOutcome) : Counts 0 (history ++ [outcome]) := by
  intro tested
  cases tested with
  | zero => simp [Rejected]
  | succ tested =>
      rw [Rejected, replicate_suffix_snoc]
      simp [isOther]

/-! ## Presence -/

variable {state next : Watched} {config : PushNotificationConfig}
variable {configId tested : String} {now worker : Nat}

theorem present_insert
    {configs target : PushConfigs}
    (inserted : configs.insert config now = .ok target) :
    Present target tested →
      tested = config.configId ∨ Present configs tested := by
  intro given
  rcases given with ⟨taskId, found, member, rfl⟩
  rw [PushConfigs.listForTask, (PushConfigs.insert_ok inserted).1] at member
  rcases Grouped.mem_replace.mp member with ⟨_, rfl⟩ | ⟨inList, _⟩
  · exact .inl rfl
  · exact .inr ⟨taskId, found, inList, rfl⟩

theorem present_delete
    {configs : PushConfigs} (present : Present (configs.delete configId) tested) :
    tested ≠ configId ∧ Present configs tested := by
  obtain ⟨taskId, found, member, rfl⟩ := present
  obtain ⟨inList, differs⟩ := List.mem_filter.mp member
  exact ⟨by simpa using differs, taskId, found, inList, rfl⟩

/-! ## Workers -/

theorem deleting_update
    {outcome : Option String} {workers : Nat → Option String}
    (idle : workers worker = none) :
    (∃ tested, Function.update workers worker outcome tested =
        some configId) ↔
      outcome = some configId ∨ ∃ tested, workers tested = some configId := by
  constructor
  · intro given
    rcases given with ⟨tested, holds⟩
    by_cases same : tested = worker
    · subst same
      rw [Function.update_self] at holds
      exact .inl holds
    · rw [Function.update_of_ne same] at holds
      exact .inr ⟨tested, holds⟩
  · intro either
    rcases either with isNew | ⟨tested, holds⟩
    · exact ⟨worker, by rw [Function.update_self, isNew]⟩
    · refine ⟨tested, ?_⟩
      have isOther : tested ≠ worker := by
        intro same
        rw [same, idle] at holds
        cases holds
      rw [Function.update_of_ne isOther]
      exact holds

/-! ## The invariant -/

/-- The count of a configuration is that of its last rejections, and a worker
deletes it from the threshold on. -/
structure Follows (state : Watched) (configId : String) : Prop where
  counts : Counts (count state configId) (state.history configId)
  deleting : Deleting state configId ↔
    state.threshold ≤ count state configId

def AllFollow (state : Watched) : Prop :=
  ∀ configId, Present state.configs configId → Follows state configId

theorem Follows.deletes
    (follows : Follows state configId) :
    Deleting state configId ↔
      Rejected state.threshold (state.history configId) :=
  follows.deleting.trans (follows.counts state.threshold).symm

theorem handle_permanentFailure (state : Watched) (worker : Nat)
    (configId : String) :
    handle state worker configId .permanentFailure =
      { state with
        counts :=
          Function.update state.counts configId
            (some ((count state configId + 1) % 2 ^ 32))
        workers :=
          if state.threshold ≤ (count state configId + 1) % 2 ^ 32 then
            Function.update state.workers worker (some configId)
          else
            state.workers } := by
  by_cases reached :
      state.threshold ≤ (count state configId + 1) % 2 ^ 32
  · simp only [handle, recordPermanentFailure, reached, decide_true, if_true]
  · simp only [handle, recordPermanentFailure, reached, decide_false, if_false,
      Bool.false_eq_true]

/-- A step that leaves the id alone. -/
theorem Follows.kept
    (follows : Follows state configId)
    (threshold : next.threshold = state.threshold)
    (counts : next.counts configId = state.counts configId)
    (history : next.history configId = state.history configId)
    (deleting : Deleting next configId ↔ Deleting state configId) :
    Follows next configId := by
  have sameCount : count next configId = count state configId := by
    rw [count, count, counts]
  refine ⟨?_, ?_⟩
  · rw [sameCount, history]
    exact follows.counts
  · rw [deleting, threshold, sameCount]
    exact follows.deleting

/-- A step after which the count is zero and nobody deletes the id. -/
theorem follows_zero
    (positive : 1 ≤ next.threshold) (zero : count next configId = 0)
    (counts : Counts 0 (next.history configId))
    (notDeleting : ¬ Deleting next configId) : Follows next configId := by
  refine ⟨by rw [zero]; exact counts, iff_of_false notDeleting ?_⟩
  rw [zero]
  omega

/-- A rejection that is counted. -/
theorem follows_rejection
    (follows : Follows state configId)
    (small : count state configId + 1 < 2 ^ 32) :
    Follows
      (handle (remember state configId .permanentFailure) worker configId
        .permanentFailure) configId := by
  have counted : (count (remember state configId .permanentFailure)
      configId + 1) % 2 ^ 32 = count state configId + 1 :=
    Nat.mod_eq_of_lt small
  have counts := follows.counts.rejected
  have isCount : ∀ workers, count
      { remember state configId .permanentFailure with
        counts := Function.update
          (remember state configId .permanentFailure).counts configId
          (some (count state configId + 1)), workers } configId =
        count state configId + 1 := by
    simp [count]
  rw [handle_permanentFailure, counted]
  refine ⟨by simpa [count, remember] using counts, ?_⟩
  rw [isCount]
  by_cases reached : state.threshold ≤ count state configId + 1
  · refine iff_of_true ⟨worker, ?_⟩ reached
    simp [remember, reached]
  · refine iff_of_false ?_ reached
    intro given
    rcases given with ⟨tested, holds⟩
    have deleting : Deleting state configId :=
      ⟨tested, by simpa [remember, reached] using holds⟩
    have enough := follows.deleting.mp deleting
    omega

/-- The outcome of another configuration. -/
theorem follows_other
    {outcome : DeliveryOutcome} {handled : String}
    (follows : Follows state configId) (idle : state.workers worker = none)
    (differs : configId ≠ handled) :
    Follows (handle (remember state handled outcome) worker handled outcome)
      configId := by
  have history : (remember state handled outcome).history configId =
      state.history configId :=
    Function.update_of_ne differs _ _
  cases outcome with
  | success =>
      exact follows.kept rfl (Function.update_of_ne differs _ _) history
        Iff.rfl
  | dropped => exact follows.kept rfl rfl history Iff.rfl
  | permanentFailure =>
      rw [handle_permanentFailure]
      refine follows.kept rfl (Function.update_of_ne differs _ _) history ?_
      simp only [Deleting]
      split
      · refine (deleting_update idle).trans ?_
        simp [Ne.symm differs]
      · exact Iff.rfl

theorem follows_outcome
    {outcome : DeliveryOutcome} {handled : String}
    (positive : 1 ≤ state.threshold) (follows : Follows state configId)
    (fresh : ¬ GoesStale state (.outcome worker handled outcome))
    (idle : state.workers worker = none) :
    Follows (handle (remember state handled outcome) worker handled outcome)
      configId := by
  by_cases same : configId = handled
  · subst same
    have remembered : (remember state configId outcome).history configId =
        state.history configId ++ [outcome] :=
      Function.update_self _ _ _
    cases outcome with
    | success =>
        refine follows_zero positive ?_ ?_ fresh
        · simp [count, handle, resetFailureCount]
        · exact remembered ▸ counts_other (by decide) _
    | dropped =>
        simp only [GoesStale, not_or, not_not] at fresh
        refine follows_zero positive fresh.1 ?_ fresh.2
        exact remembered ▸ counts_other (by decide) _
    | permanentFailure =>
        simp only [GoesStale, Nat.not_le] at fresh
        exact follows_rejection follows fresh
  · exact follows_other follows idle same

theorem handle_frame (state : Watched) (worker : Nat) (configId : String)
    (outcome : DeliveryOutcome) :
    (handle state worker configId outcome).threshold = state.threshold ∧
      (handle state worker configId outcome).configs = state.configs := by
  cases outcome with
  | success => exact ⟨rfl, rfl⟩
  | dropped => exact ⟨rfl, rfl⟩
  | permanentFailure =>
      rw [handle_permanentFailure]
      exact ⟨rfl, rfl⟩

/-- A deletion, with the worker that makes it, if one does. -/
theorem follows_delete
    {workers : Nat → Option String} (follows : AllFollow state)
    (others : ∀ tested, tested ≠ configId →
      ((∃ worker, workers worker = some tested) ↔ Deleting state tested)) :
    AllFollow { delete state configId with workers } := by
  intro tested present
  obtain ⟨isOther, wasPresent⟩ := present_delete present
  exact (follows tested wasPresent).kept rfl
    (Function.update_of_ne isOther _ _) (Function.update_of_ne isOther _ _)
    (others tested isOther)

theorem follows_insert
    {configs : PushConfigs} (positive : 1 ≤ state.threshold)
    (follows : AllFollow state)
    (fresh : ¬ GoesStale state (.insert config now))
    (inserted : state.configs.insert config now = .ok configs) :
    AllFollow
      { state with
        configs
        history := Function.update state.history config.configId [] } := by
  intro configId present
  by_cases same : configId = config.configId
  · subst same
    simp only [GoesStale, not_and, not_or, not_not] at fresh
    obtain ⟨zero, notDeleting⟩ := fresh ⟨configs, inserted⟩
    refine follows_zero positive zero ?_ notDeleting
    simp only [Function.update_self]
    exact counts_nil
  · have wasPresent :=
      (present_insert inserted present).resolve_left same
    exact (follows configId wasPresent).kept rfl rfl
      (Function.update_of_ne same _ _) Iff.rfl

theorem follows_step
    {action : Action} (positive : 1 ≤ state.threshold)
    (follows : AllFollow state) (fresh : ¬ GoesStale state action)
    (taken : step action state = some next) :
    1 ≤ next.threshold ∧ AllFollow next := by
  cases action with
  | outcome worker handled outcome =>
      simp only [step] at taken
      split at taken
      · cases taken
      · rename_i idle
        cases taken
        obtain ⟨threshold, configs⟩ := handle_frame
          (remember state handled outcome) worker handled outcome
        refine ⟨by rw [threshold]; exact positive, ?_⟩
        intro configId present
        rw [configs] at present
        exact follows_outcome positive (follows configId present) fresh idle
  | workerDelete worker =>
      obtain ⟨deleted, held, rfl⟩ := Option.map_eq_some_iff.mp taken
      refine ⟨positive, follows_delete follows ?_⟩
      intro tested isOther
      constructor
      · intro given
        rcases given with ⟨other, holds⟩
        by_cases same : other = worker
        · simp [same] at holds
        · exact ⟨other, by simpa [same] using holds⟩
      · intro given
        rcases given with ⟨other, holds⟩
        refine ⟨other, ?_⟩
        have otherWorker : other ≠ worker := by
          intro same
          rw [same, held] at holds
          exact isOther (Option.some.inj holds).symm
        exact (Function.update_of_ne otherWorker _ _).trans holds
  | insert config now =>
      simp only [step] at taken
      split at taken
      · rename_i configs inserted
        cases taken
        exact ⟨positive, follows_insert positive follows fresh inserted⟩
      · cases taken
        exact ⟨positive, follows⟩
  | delete deleted =>
      cases taken
      exact ⟨positive, follows_delete follows fun _ _ => Iff.rfl⟩

/-- In a run in which no count goes stale, the workers delete exactly what has
been rejected as often as the threshold says. -/
theorem workers_delete_rejected
    {threshold : Nat} (positive : 1 ≤ threshold) {rows : Option Rows}
    {trace : List Action}
    (run : Machine.Run step (fun state action => ¬ GoesStale state action)
      (start threshold rows) trace state) :
    DeletesRejected state := by
  have follows : 1 ≤ state.threshold ∧ AllFollow state := by
    refine run.invariant (fun reached => 1 ≤ reached.threshold ∧
      AllFollow reached) ⟨positive, ?_⟩ ?_
    · intro configId given
      rcases given with ⟨taskId, config, member, _⟩
      cases member
    · intro source action target holds permitted taken
      exact follows_step holds.1 holds.2 permitted taken
  exact fun configId present => (follows.2 configId present).deletes

/-! ## Two runs -/

def hook : PushNotificationConfig :=
  { configId := "a", taskId := "t", url := "http://h", token := none
    authScheme := none, authCredentials := none, tenant := none }

/-- Only rejections below a small count, and deletions. -/
def staysFresh (state : Watched) : Action → Bool
  | .outcome _ configId .permanentFailure => count state configId < 100
  | .delete _ => true
  | .workerDelete _ => true
  | _ => false

theorem not_goesStale_of_staysFresh
    {action : Action} (stays : staysFresh state action = true) :
    ¬ GoesStale state action := by
  cases action with
  | outcome worker configId outcome =>
      cases outcome with
      | permanentFailure =>
          have small : count state configId < 100 := by
            simpa [staysFresh] using stays
          simp only [GoesStale]
          omega
      | success => cases stays
      | dropped => cases stays
  | workerDelete worker => exact id
  | insert config now => cases stays
  | delete configId => exact id

theorem rejected_config_is_deleted :
    ∃ state : Watched,
      state.configs.listForTask "t" = [hook] ∧
        state.workers 1 = some "a" ∧ DeletesRejected state := by
  have inserts : Machine.Run step
      (fun state action => ¬ GoesStale state action) (start 2 none)
      ([] ++ [.insert hook 1])
      { start 2 none with
        configs := (PushConfigs.new none).insertInner hook
        history := Function.update (start 2 none).history "a" [] } := by
    refine .snoc .start ?_ rfl
    intro given
    rcases given with ⟨_, counted | ⟨worker, deletes⟩⟩
    · exact counted rfl
    · cases deletes
  have executes :
      (Machine.execTested step staysFresh
        [.outcome 0 "a" .permanentFailure, .outcome 1 "a" .permanentFailure]
        { start 2 none with
          configs := (PushConfigs.new none).insertInner hook
          history := Function.update (start 2 none).history "a" [] }).map
        (fun state => (state.configs.listForTask "t", state.workers 1)) =
        some ([hook], some "a") := by
    decide +kernel
  obtain ⟨state, executed, reached⟩ := Option.map_eq_some_iff.mp executes
  simp only [Prod.mk.injEq] at reached
  exact ⟨state, reached.1, reached.2,
    workers_delete_rejected (by decide)
      (inserts.append (Machine.run_of_execTested
        (fun _ _ stays => not_goesStale_of_staysFresh stays) executed))⟩

/-- A dropped delivery between two rejections leaves the count as it is. -/
theorem interrupted_rejections_delete :
    ¬ ∀ threshold rows trace (state : Watched),
        1 ≤ threshold →
          Machine.Run step Machine.free (start threshold rows) trace state →
            DeletesRejected state := by
  intro claimed
  have executes :
      (Machine.exec step
        [.insert hook 1, .outcome 0 "a" .permanentFailure,
          .outcome 0 "a" .dropped, .outcome 0 "a" .permanentFailure]
        (start 2 none)).map (fun state =>
          (state.configs.listForTask "t", state.workers 0, state.threshold,
            state.history "a")) =
        some ([hook], some "a", 2,
          [.permanentFailure, .dropped, .permanentFailure]) := by
    decide +kernel
  obtain ⟨state, executed, reached⟩ := Option.map_eq_some_iff.mp executes
  simp only [Prod.mk.injEq] at reached
  obtain ⟨listed, deletes, threshold, history⟩ := reached
  have present : Present state.configs "a" :=
    ⟨"t", hook, by rw [listed]; exact List.mem_singleton.mpr rfl, rfl⟩
  have rejected := (claimed 2 none _ state (by decide)
    (Machine.run_of_exec executed) "a" present).mp ⟨0, deletes⟩
  rw [threshold, history] at rejected
  revert rejected
  unfold Rejected
  decide

end PushFailures

end A2AShim
