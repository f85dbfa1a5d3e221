import A2AShim.Serve.PoolDrains
import A2AShim.Serve.PushOnce

/-!
# From a finished Task to its webhooks

The server together with the workers that deliver for it.  The registry of
configurations is one for both, and what the server queues is what the workers
take.  A step of the service is a step of the server, of a worker, or of both,
so that what holds of their runs comes together here.
-/

namespace A2AShim

/-- The configuration that the next step of a worker deletes. -/
def WorkerPool.removes? (pool : WorkerPool) (worker : Nat) : Option String :=
  match pool.workers worker with
  | some (.deleting _ _ _) => pool.watched.workers worker
  | _ => none

structure PushService where
  server : Server
  pool : WorkerPool

namespace PushService

open Machine

/-- `tables` is what the other statements make of the database. -/
inductive Action where
  | server (action : Server.Action)
  | insert (config : PushNotificationConfig) (now : Nat)
  | delete (configId : String)
  | tables (rows : Rows)
  | work (worker : Nat)
  | answer (worker : Nat) (response : Response)
  deriving DecidableEq

def start (size threshold maxActive idleWindow now : Nat)
    (rows : Option Rows) (loaded : List (String × SessionId)) : PushService :=
  { server := Server.start maxActive idleWindow now loaded
    pool := WorkerPool.start size threshold rows }

/-- The workers have moved; the server sees what became of the registry. -/
def withPool (service : PushService) (pool : WorkerPool) : PushService :=
  { server :=
      { service.server with
        shared :=
          { service.server.shared with
            configs := pool.watched.configs.registry } }
    pool }

def withWatched (service : PushService) (watched : Watched) : PushService :=
  service.withPool { service.pool with watched }

/-- Configurations change through the registry only. -/
def configures : Server.Action → Bool
  | .putConfig _ | .deleteConfig _ => true
  | _ => false

variable (json : SerdeJson) (cfg : ServeConfig)
variable (checks : Bool) (policy : RetryPolicy)

/-- The jobs that a step of the server queues are sent to the workers. -/
def serverStep (service : PushService) (action : Server.Action) :
    Option PushService :=
  (Server.step json cfg action service.server).bind fun server =>
    let jobs :=
      server.shared.jobs.drop service.server.shared.jobs.length
    (exec (WorkerPool.step checks policy) (jobs.map .send) service.pool).map
      fun pool => { server, pool }

def step : Action → PushService → Option PushService
  | .server action, service =>
      if configures action then
        none
      else
        service.serverStep json cfg checks policy action
  | .insert config now, service =>
      (PushFailures.step (.insert config now) service.pool.watched).map
        service.withWatched
  | .delete configId, service =>
      (PushFailures.step (.delete configId) service.pool.watched).map
        service.withWatched
  | .tables rows, service =>
      let configs := service.pool.watched.configs
      some
        (service.withWatched
          { service.pool.watched with
            configs :=
              { configs with rows := configs.rows.map fun _ => rows } })
  | .work worker, service =>
      (WorkerPool.step checks policy (.work worker) service.pool).map
        service.withPool
  | .answer worker response, service =>
      (WorkerPool.step checks policy (.answer worker response)
        service.pool).map service.withPool

/-- The step that the server takes in a step of the service. -/
def asked? (service : PushService) : Action → Option Server.Action
  | .server action => some action
  | .insert config now =>
      match service.pool.watched.configs.insert config now with
      | .ok _ => some (.putConfig config)
      | .error _ => none
  | .delete configId => some (.deleteConfig configId)
  | .work worker => (service.pool.removes? worker).map .deleteConfig
  | .tables _ | .answer _ _ => none

/-- A step of the server that leaves a configuration without its job. -/
def Misses (service : PushService) (action : Action) : Prop :=
  ∃ asked, service.asked? action = some asked ∧
    Server.Misses service.server asked

/-- What the webhook of a configuration gets: one job is queued for it, with
the final state of the Task, and when the workers have come to rest, a bounded
number of equal requests has been sent for the job, and its outcome counted. -/
def Notified (service : PushService) (config : PushNotificationConfig)
    (id : TaskId) (state : TaskState) : Prop :=
  ∃ ticket job now,
    job =
        { config
          payload :=
            PushDelivery.buildStatusUpdatePayload id.text
              (TaskRegistry.stateStr state) now } ∧
      service.pool.accepted[ticket]? = some job ∧
        (∀ other found, service.pool.accepted[other]? = some found →
          found.config = config → other = ticket) ∧
          (WorkerPool.Settled checks policy service.pool →
            ∃ outcome tries, (ticket, outcome) ∈ service.pool.counted ∧
              1 ≤ tries ∧ tries ≤ policy.attempts ∧
                service.pool.triesOf ticket =
                  List.replicate tries (PushDelivery.request job))

/-! ## What a step does -/

variable {json cfg checks policy}
variable {service target : PushService} {action : Action}

/-- The server and the workers see the same configurations. -/
def OneRegistry (service : PushService) : Prop :=
  service.server.shared.configs = service.pool.watched.configs.registry

theorem server_withPool
    {pool : WorkerPool} (one : service.OneRegistry)
    (same : pool.watched.configs.registry =
      service.pool.watched.configs.registry) :
    (service.withPool pool).server = service.server := by
  simp only [withPool]
  rw [same, ← one]

/-- A worker changes the registry where it deletes a configuration. -/
theorem registry_of_work
    {worker : Nat} {pool after : WorkerPool}
    (taken :
      WorkerPool.step checks policy (.work worker) pool = some after) :
    match pool.removes? worker with
    | some configId =>
        after.watched.configs.registry =
          pool.watched.configs.registry.delete configId
    | none =>
        after.watched.configs.registry = pool.watched.configs.registry := by
  obtain ⟨pc, found, worked⟩ := Option.bind_eq_some_iff.mp taken
  simp only [WorkerPool.removes?, found]
  cases pc with
  | locking =>
      simp only [WorkerPool.work] at worked
      split at worked <;> cases worked
      rfl
  | receiving =>
      simp only [WorkerPool.work] at worked
      split at worked
      · cases worked
        rfl
      · split at worked <;> cases worked
        rfl
  | sleeping ticket job number seconds =>
      cases worked
      rfl
  | recording ticket job outcome =>
      cases worked
      exact congrArg PushConfigs.registry
        (PushFailures.handle_frame _ worker job.config.configId outcome).2
  | deleting ticket job outcome =>
      simp only [WorkerPool.work] at worked
      obtain ⟨watched, deleted, rfl⟩ := Option.map_eq_some_iff.mp worked
      obtain ⟨configId, isWatched, rfl⟩ := Option.map_eq_some_iff.mp deleted
      rw [isWatched]
      rfl
  | counting ticket job outcome =>
      cases worked
      rfl
  | attempting ticket job number => cases worked
  | stopped => cases worked
  | panicked ticket job => cases worked

theorem watched_of_answer
    {worker : Nat} {response : Response} {pool after : WorkerPool}
    (taken :
      WorkerPool.step checks policy (.answer worker response) pool =
        some after) :
    after.watched = pool.watched := by
  obtain ⟨pc, _, worked⟩ := Option.bind_eq_some_iff.mp taken
  cases pc with
  | attempting ticket job number =>
      cases worked
      rfl
  | _ => cases worked

/-- The server takes the step it is asked for, or none. -/
theorem server_of_step
    (one : service.OneRegistry)
    (taken : step json cfg checks policy action service = some target) :
    match service.asked? action with
    | some asked =>
        Server.step json cfg asked service.server = some target.server
    | none => target.server = service.server := by
  cases action with
  | server action =>
      simp only [step] at taken
      split at taken
      · cases taken
      · obtain ⟨server, moved, sent⟩ := Option.bind_eq_some_iff.mp taken
        obtain ⟨pool, _, rfl⟩ := Option.map_eq_some_iff.mp sent
        exact moved
  | insert config now =>
      obtain ⟨watched, inserted, rfl⟩ := Option.map_eq_some_iff.mp taken
      simp only [PushFailures.step] at inserted
      simp only [asked?]
      cases result : service.pool.watched.configs.insert config now with
      | error text =>
          rw [result] at inserted
          cases inserted
          exact server_withPool one rfl
      | ok configs =>
          rw [result] at inserted
          cases inserted
          have isInsert := (PushConfigs.insert_ok result).1
          simp only [Server.step, withWatched, withPool]
          rw [isInsert, one]
  | delete configId =>
      cases taken
      simp only [asked?, Server.step]
      rw [one]
      rfl
  | tables rows =>
      cases taken
      exact server_withPool one rfl
  | work worker =>
      obtain ⟨pool, worked, rfl⟩ := Option.map_eq_some_iff.mp taken
      have registry := registry_of_work worked
      simp only [asked?]
      cases removed : service.pool.removes? worker with
      | none =>
          rw [removed] at registry
          exact server_withPool one registry
      | some configId =>
          rw [removed] at registry
          simp only [Option.map_some, Server.step, withPool]
          rw [registry, one]
  | answer worker response =>
      obtain ⟨pool, answered, rfl⟩ := Option.map_eq_some_iff.mp taken
      refine server_withPool one ?_
      rw [watched_of_answer answered]

/-- Only the requests on configurations change them. -/
theorem configs_of_step
    {asked : Server.Action} {server after : Server}
    (isOther : configures asked = false)
    (taken : Server.step json cfg asked server = some after) :
    after.shared.configs = server.shared.configs := by
  cases Server.step_steps taken with
  | prompts name env handler next moved found moves =>
      exact (Server.moves_jobs moves).1
  | works name env thread next moved found noHandler affected =>
      cases affected <;> rfl
  | configures _ configs changed =>
      rcases changed with ⟨config, rfl, _⟩ | ⟨configId, rfl, _⟩ <;>
        cases isOther
  | _ => rfl

/-- The jobs of a server are never taken back. -/
theorem jobs_of_step
    {asked : Server.Action} {server after : Server}
    (staged : server.Staged)
    (taken : Server.step json cfg asked server = some after) :
    server.shared.jobs ++
        after.shared.jobs.drop server.shared.jobs.length =
      after.shared.jobs := by
  have added := Server.jobs_step staged taken
  rcases added with ⟨same, _⟩ |
    ⟨_, _, _, _, _, _, _, _, _, _, _, _, _, more⟩
  · rw [same, List.drop_length, List.append_nil]
  · rw [more, List.drop_left]

/-! ## The workers -/

end PushService

namespace WorkerPool

open Machine

variable {checks : Bool} {policy : RetryPolicy} {pool target : WorkerPool}

/-- What holds of the workers of a service, whose queue is never closed. -/
structure Sound (checks : Bool) (policy : RetryPolicy)
    (pool : WorkerPool) : Prop where
  tracked : Tracked checks policy pool
  counted : Counted pool
  staffed : Staffed pool
  orderly : Orderly pool
  isOpen : pool.closed = false
  someone : 0 < pool.size

theorem Sound.steps
    {own : Bool} (sound : Sound checks policy pool)
    (taken : Steps checks policy pool own target)
    (stays : target.closed = pool.closed) : Sound checks policy target where
  tracked := sound.tracked.step taken
  counted := sound.counted.step sound.tracked.fair taken
  staffed := sound.staffed.step sound.tracked taken
  orderly := sound.orderly.step taken
  isOpen := stays.trans sound.isOpen
  someone := by
    rw [size_of_steps taken]
    exact sound.someone

/-- No worker stops while the queue is open, and with numbers of 64 bits
none is lost. -/
theorem Sound.anyAlive
    (sound : Sound checks policy pool)
    (fits : ∀ retry, retry + 1 < policy.maxAttempts.toNat →
      policy.Fits retry) :
    pool.anyAlive = true := by
  have ⟨pc, found⟩ := (sound.staffed 0).mp sound.someone
  have alive : pc.isAlive = true := by
    cases pc with
    | stopped =>
        have closed := (sound.orderly.stopped 0 found).1
        rw [sound.isOpen] at closed
        contradiction
    | panicked ticket job =>
        exact absurd (lostOn_of_panicked sound.tracked found)
          (not_lostOn fits)
    | _ => rfl
  apply List.any_eq_true.mpr
  refine ⟨0, List.mem_range.mpr sound.someone, ?_⟩
  rw [found]
  exact alive

theorem exec_sends
    (pool : WorkerPool) (jobs : List DeliveryJob)
    (isOpen : pool.closed = false) (alive : pool.anyAlive = true) :
    exec (step checks policy) (jobs.map .send) pool =
      some { pool with accepted := pool.accepted ++ jobs } := by
  induction jobs generalizing pool with
  | nil =>
      rw [List.append_nil]
      rfl
  | cons job rest inductionHypothesis =>
      have sent : step checks policy (.send job) pool =
          some { pool with accepted := pool.accepted ++ [job] } := by
        simp only [step, isOpen, alive]
        rfl
      have others :=
        inductionHypothesis { pool with accepted := pool.accepted ++ [job] }
          isOpen alive
      rw [List.map_cons, exec, sent, Option.bind_some, others,
        List.append_assoc]
      rfl

theorem Sound.sends
    (sound : Sound checks policy pool) (jobs : List DeliveryJob) :
    Sound checks policy { pool with accepted := pool.accepted ++ jobs } := by
  induction jobs generalizing pool with
  | nil =>
      rw [List.append_nil]
      exact sound
  | cons job rest inductionHypothesis =>
      have first := sound.steps (.sends job sound.isOpen) rfl
      have others := inductionHypothesis first
      rw [List.append_assoc] at others
      exact others

/-- Where the workers have come to rest, each job has been counted. -/
theorem Sound.counted_of_settled
    {ticket : Nat} (sound : Sound checks policy pool)
    (settled : Settled checks policy pool)
    (fits : ∀ retry, retry + 1 < policy.maxAttempts.toNat →
      policy.Fits retry)
    (isIssued : ticket < pool.accepted.length) :
    ∃ outcome, (ticket, outcome) ∈ pool.counted := by
  have fate :=
    settled.job sound.orderly sound.tracked sound.staffed isIssued
  rcases fate with counted | ⟨worker, lost⟩ | all
  · exact counted
  · exact absurd lost (not_lostOn fits)
  · have ⟨lostTicket, lost⟩ := all 0 sound.someone
    exact absurd lost (not_lostOn fits)

/-- A counted job has been tried, and with its own request only. -/
theorem Sound.tries_of_counted
    {ticket : Nat} {job : DeliveryJob} {outcome : DeliveryOutcome}
    (sound : Sound checks policy pool)
    (isJob : pool.accepted[ticket]? = some job)
    (counted : (ticket, outcome) ∈ pool.counted) :
    ∃ tries, 1 ≤ tries ∧ tries ≤ policy.attempts ∧
      pool.triesOf ticket =
        List.replicate tries (PushDelivery.request job) := by
  have ⟨other, tries, bounded, reached⟩ :=
    sound.tracked.counted ticket outcome counted
  have isOther := reached.accepted
  rw [isJob] at isOther
  cases isOther
  have waited := reached.waited
  rw [if_neg (by simp)] at waited
  exact ⟨tries, by omega, bounded, reached.tried⟩

end WorkerPool

namespace PushService

open Machine

variable {json : SerdeJson} {cfg : ServeConfig}
variable {checks : Bool} {policy : RetryPolicy}
variable {service target : PushService} {action : Action}

/-- What holds of the service in every run: no job is lost on the way from
the server to the workers. -/
structure Sound (checks : Bool) (policy : RetryPolicy)
    (service : PushService) : Prop where
  registry : service.OneRegistry
  pool : service.pool.Sound checks policy
  accepted : service.pool.accepted = service.server.shared.jobs
  queued : service.server.Queued
  staged : service.server.Staged

theorem sound_start
    {size threshold maxActive idleWindow now : Nat} {rows : Option Rows}
    {loaded : List (String × SessionId)} (someone : 0 < size) :
    Sound checks policy
      (start size threshold maxActive idleWindow now rows loaded) where
  registry := rfl
  pool :=
    { tracked := WorkerPool.tracked_start size threshold rows
      counted := ⟨List.nodup_nil, fun _ => rfl⟩
      staffed := WorkerPool.staffed_start size threshold rows
      orderly := WorkerPool.orderly_start size threshold rows
      isOpen := rfl
      someone }
  accepted := rfl
  queued := Server.queued_start maxActive idleWindow now loaded
  staged := Server.staged_start maxActive idleWindow now loaded

/-- A worker takes the jobs as they are. -/
theorem accepted_of_own
    {pool after : WorkerPool}
    (taken : WorkerPool.Steps checks policy pool true after) :
    after.accepted = pool.accepted ∧ after.closed = pool.closed := by
  cases taken <;> exact ⟨rfl, rfl⟩

theorem Sound.server_step
    {asked : Server.Action} (sound : Sound checks policy service)
    (fits : ∀ retry, retry + 1 < policy.maxAttempts.toNat →
      policy.Fits retry)
    (isOther : configures asked = false)
    (taken : service.serverStep json cfg checks policy asked = some target) :
    target.OneRegistry ∧ target.pool.Sound checks policy ∧
      target.pool.accepted = target.server.shared.jobs := by
  obtain ⟨server, moved, sent⟩ := Option.bind_eq_some_iff.mp taken
  obtain ⟨pool, executed, rfl⟩ := Option.map_eq_some_iff.mp sent
  have alive := sound.pool.anyAlive fits
  rw [WorkerPool.exec_sends _ _ sound.pool.isOpen alive] at executed
  cases executed
  refine ⟨?_, sound.pool.sends _, ?_⟩
  · exact (configs_of_step isOther moved).trans sound.registry
  · have added := jobs_of_step sound.staged moved
    rw [← sound.accepted] at added ⊢
    exact added

/-- The workers have moved, with the jobs as they were. -/
theorem Sound.of_pool
    {pool : WorkerPool} (sound : Sound checks policy service)
    (moved : pool.Sound checks policy)
    (same : pool.accepted = service.pool.accepted) :
    (service.withPool pool).OneRegistry ∧
      (service.withPool pool).pool.Sound checks policy ∧
        (service.withPool pool).pool.accepted =
          (service.withPool pool).server.shared.jobs :=
  ⟨rfl, moved, same.trans sound.accepted⟩

theorem Sound.of_watched
    {watched : Watched} (sound : Sound checks policy service)
    (same : watched.workers = service.pool.watched.workers) :
    (service.withWatched watched).OneRegistry ∧
      (service.withWatched watched).pool.Sound checks policy ∧
        (service.withWatched watched).pool.accepted =
          (service.withWatched watched).server.shared.jobs :=
  sound.of_pool (sound.pool.steps (.configures watched same) rfl) rfl

theorem Sound.step
    (sound : Sound checks policy service)
    (fits : ∀ retry, retry + 1 < policy.maxAttempts.toNat →
      policy.Fits retry)
    (taken : step json cfg checks policy action service = some target) :
    Sound checks policy target := by
  have both : target.server.Queued ∧ target.server.Staged := by
    have moved := server_of_step sound.registry taken
    cases isAsked : service.asked? action with
    | none =>
        rw [isAsked] at moved
        rw [moved]
        exact ⟨sound.queued, sound.staged⟩
    | some asked =>
        rw [isAsked] at moved
        exact ⟨sound.queued.step sound.staged moved,
          sound.staged.step moved⟩
  have others : target.OneRegistry ∧ target.pool.Sound checks policy ∧
      target.pool.accepted = target.server.shared.jobs := by
    cases action with
    | server asked =>
        simp only [PushService.step] at taken
        split at taken
        · cases taken
        · rename_i isOther
          exact sound.server_step fits
            (Bool.eq_false_of_not_eq_true isOther) taken
    | insert config now =>
        obtain ⟨watched, inserted, rfl⟩ := Option.map_eq_some_iff.mp taken
        exact sound.of_watched (WorkerPool.workers_of_insert inserted)
    | delete configId =>
        cases taken
        exact sound.of_watched rfl
    | tables rows =>
        cases taken
        exact sound.of_watched rfl
    | work worker =>
        obtain ⟨pool, worked, rfl⟩ := Option.map_eq_some_iff.mp taken
        have steps := WorkerPool.steps_of_step worked
        have ⟨accepted, closed⟩ := accepted_of_own steps
        exact sound.of_pool (sound.pool.steps steps closed) accepted
    | answer worker response =>
        obtain ⟨pool, answered, rfl⟩ := Option.map_eq_some_iff.mp taken
        have steps := WorkerPool.steps_of_step answered
        have ⟨accepted, closed⟩ := accepted_of_own steps
        exact sound.of_pool (sound.pool.steps steps closed) accepted
  exact ⟨others.1, others.2.1, others.2.2, both.1, both.2⟩

/-! ## From the terminal state to the requests -/

/-- The only item of its kind stands at one place. -/
theorem place_of_only
    {α : Type} {kind : α → Bool} {items : List α} {item : α}
    (only : items.filter kind = [item]) :
    ∃ place : Nat, items[place]? = some item ∧
      ∀ (other : Nat) (found : α), items[other]? = some found →
        kind found = true → other = place := by
  induction items with
  | nil => cases only
  | cons head rest inductionHypothesis =>
      by_cases ofKind : kind head = true
      · rw [List.filter_cons_of_pos ofKind] at only
        injection only with isItem noOther
        refine ⟨0, congrArg some isItem, ?_⟩
        intro other found isFound isKind
        cases other with
        | zero => rfl
        | succ later =>
            have member : found ∈ rest := List.mem_of_getElem? isFound
            have filtered := List.mem_filter.mpr ⟨member, isKind⟩
            rw [noOther] at filtered
            cases filtered
      · rw [List.filter_cons_of_neg ofKind] at only
        have ⟨place, isItem, unique⟩ := inductionHypothesis only
        refine ⟨place + 1, isItem, ?_⟩
        intro other found isFound isKind
        cases other with
        | zero =>
            rw [← Option.some.inj isFound] at isKind
            exact absurd isKind ofKind
        | succ later =>
            have same := unique later found isFound isKind
            omega

theorem Sound.notified
    {config : PushNotificationConfig} {id : TaskId} {state : TaskState}
    (sound : Sound checks policy service)
    (fits : ∀ retry, retry + 1 < policy.maxAttempts.toNat →
      policy.Fits retry)
    {now : Int}
    (only : service.server.jobsFor config =
      [{ config
         payload :=
          PushDelivery.buildStatusUpdatePayload id.text
            (TaskRegistry.stateStr state) now }]) :
    service.Notified checks policy config id state := by
  have ⟨ticket, isJob, unique⟩ := place_of_only only
  rw [← sound.accepted] at isJob
  refine ⟨ticket, _, now, rfl, isJob, ?_, ?_⟩
  · intro other found isFound sameConfig
    rw [sound.accepted] at isFound
    exact unique other found isFound (decide_eq_true sameConfig)
  · intro settled
    have isIssued := (List.getElem?_eq_some_iff.mp isJob).1
    have ⟨outcome, counted⟩ :=
      sound.pool.counted_of_settled settled fits isIssued
    have ⟨tries, tried, bounded, requests⟩ :=
      sound.pool.tries_of_counted isJob counted
    exact ⟨outcome, tries, counted, tried, bounded, requests⟩

/-- A Task that becomes terminal does so in a step of the server. -/
theorem follows_of_finishes
    {config : PushNotificationConfig} {id : TaskId} {state : TaskState}
    (sound : Sound checks policy service)
    (registered :
      config ∈ service.server.shared.configs.listForTask id.text)
    (kept : ¬ Misses service action)
    (taken : step json cfg checks policy action service = some target)
    (finishes : Server.Finishes service.server target.server id state) :
    Server.Follows id state config target.server := by
  have moved := server_of_step sound.registry taken
  cases isAsked : service.asked? action with
  | none =>
      rw [isAsked] at moved
      apply absurd finishes
      apply Server.not_finishes_of_same
      intro binding known
      rw [moved]
      exact known
  | some asked =>
      rw [isAsked] at moved
      apply Server.follows_of_finishes sound.queued sound.staged registered
        _ moved finishes
      intro misses
      exact kept ⟨asked, isAsked, misses⟩

theorem follows_of_step
    {config : PushNotificationConfig} {id : TaskId} {state : TaskState}
    (sound : Sound checks policy service)
    (follows : Server.Follows id state config service.server)
    (kept : ¬ Misses service action)
    (taken : step json cfg checks policy action service = some target) :
    Server.Follows id state config target.server := by
  have moved := server_of_step sound.registry taken
  cases isAsked : service.asked? action with
  | none =>
      rw [isAsked] at moved
      rw [moved]
      exact follows
  | some asked =>
      rw [isAsked] at moved
      apply follows.step sound.queued sound.staged _ moved
      intro misses
      exact kept ⟨asked, isAsked, misses⟩

/-- From the step that finishes a Task to the requests at the webhooks of the
configurations that were registered then. -/
theorem finished_tasks_reach_webhooks
    {size threshold maxActive idleWindow now : Nat} {rows : Option Rows}
    {loaded : List (String × SessionId)} {trace : List Action}
    (someone : 0 < size)
    (fits : ∀ retry, retry + 1 < policy.maxAttempts.toNat →
      policy.Fits retry)
    (run : Run (step json cfg checks policy)
      (fun reached action => ¬ Misses reached action)
      (start size threshold maxActive idleWindow now rows loaded) trace
      service) :
    ∀ before action after reached next id state,
      trace = before ++ action :: after →
        exec (step json cfg checks policy) before
            (start size threshold maxActive idleWindow now rows loaded) =
          some reached →
          step json cfg checks policy action reached = some next →
            Server.Finishes reached.server next.server id state →
              ∀ config,
                config ∈
                    reached.server.shared.configs.listForTask id.text →
                  service.server.Rested id →
                    service.Notified checks policy config id state := by
  intro before action after reached next id state whole toReached taken
    finishes config registered rested
  subst whole
  obtain ⟨middle, toMiddle, fromMiddle⟩ := run.split
  have sameMiddle := toMiddle.exec_eq.symm.trans toReached
  cases sameMiddle
  have soundReached : Sound checks policy reached :=
    toMiddle.invariant (Sound checks policy) (sound_start someone)
      fun _ _ _ holds _ moved => holds.step fits moved
  have oneByOne :
      Run (step json cfg checks policy)
        (fun tested action => ¬ Misses tested action) reached
        (([] ++ [action]) ++ after) service := fromMiddle
  obtain ⟨target, toTarget, fromTarget⟩ := oneByOne.split
  obtain ⟨source, atSource, kept, moved⟩ := toTarget.of_snoc
  have sameSource := atSource.exec_eq
  cases sameSource
  have sameTarget := moved.symm.trans taken
  cases sameTarget
  have followed : Sound checks policy service ∧
      Server.Follows id state config service.server :=
    fromTarget.invariant
      (fun tested => Sound checks policy tested ∧
        Server.Follows id state config tested.server)
      ⟨soundReached.step fits taken,
        follows_of_finishes soundReached registered kept taken finishes⟩
      fun _ _ _ holds permitted stepped =>
        ⟨holds.1.step fits stepped,
          follows_of_step holds.1 holds.2 permitted stepped⟩
  have ⟨now, only⟩ := followed.2.once.2 rested
  exact followed.1.notified fits only

/-- A test that lets no step through that could miss a configuration. -/
def isComplete (service : PushService) (action : Action) : Bool :=
  match service.asked? action with
  | some asked => Server.isComplete service.server asked
  | none => true

theorem isComplete_sound
    (action : Action) (complete : isComplete service action = true) :
    ¬ Misses service action := by
  intro misses
  have ⟨asked, isAsked, missed⟩ := misses
  simp only [isComplete, isAsked] at complete
  exact Server.isComplete_sound asked complete missed

/-- Two workers, and a webhook that answers the second request only. -/
theorem finished_task_reaches_webhook :
    ∃ trace service,
      exec (step .constant Server.plainConfig true
          RetryPolicy.defaultPolicy) trace (start 2 3 10 60 0 none []) =
          some service ∧
        service.Notified true RetryPolicy.defaultPolicy Server.plainPush
            ⟨"t"⟩ .completed ∧
          WorkerPool.Settled true RetryPolicy.defaultPolicy service.pool := by
  let work : Action := .server (.work 0 { now := 0, taskId := ⟨"t"⟩ })
  let before : List Action :=
    [.server (.request 0 .send Server.plainParams none), work, work, work,
      .server (.acp .receive), .server (.acp (.answer (.session "s"))),
      work, work, work, work, work, .insert Server.plainPush 0, work, work,
      work, .server (.acp .receive),
      .server (.acp (.answer (.stopped .endTurn))),
      .server (.acp .sendTerminal), .server (.acp .clearRoute), work, work,
      work, work, work]
  let after : List Action :=
    [work, work, work, work, work, .work 0, .work 0,
      .answer 0 (.status 503), .work 0, .answer 0 (.status 200), .work 0,
      .work 0, .work 0]
  obtain ⟨service, tested⟩ : ∃ service,
      execTested (step .constant Server.plainConfig true
        RetryPolicy.defaultPolicy) isComplete (before ++ work :: after)
        (start 2 3 10 60 0 none []) = some service :=
    ⟨_, rfl⟩
  obtain ⟨reached, toReached⟩ : ∃ reached,
      exec (step .constant Server.plainConfig true
        RetryPolicy.defaultPolicy) before (start 2 3 10 60 0 none []) =
        some reached :=
    ⟨_, rfl⟩
  obtain ⟨next, taken⟩ : ∃ next,
      step .constant Server.plainConfig true RetryPolicy.defaultPolicy work
        reached = some next := by
    cases toReached
    exact ⟨_, rfl⟩
  have finishes :
      Server.Finishes reached.server next.server ⟨"t"⟩ .completed := by
    cases toReached
    cases taken
    exact ⟨⟨_, rfl, rfl⟩, ⟨_, rfl, rfl⟩, rfl⟩
  have registered : Server.plainPush ∈
      reached.server.shared.configs.listForTask "t" := by
    cases toReached
    exact List.mem_singleton.mpr rfl
  have onlyThread : ∀ name, service.server.threads (name + 1) = none := by
    cases tested
    intro name
    rfl
  have run :=
    run_of_execTested
      (fun _ action complete => isComplete_sound action complete) tested
  have atEnd : ∃ handler,
      service.server.threads 0 = some (.prompt handler) ∧
        handler.pc.task? = none := by
    cases tested
    exact ⟨_, rfl, rfl⟩
  have rested : service.server.Rested ⟨"t"⟩ := by
    obtain ⟨handler, isThread, unowned⟩ := atEnd
    refine ⟨?_, ?_, ?_⟩
    · intro name owns
      obtain ⟨other, found, owned⟩ := owns
      cases name with
      | zero =>
          simp only [Server.handlers, isThread, Option.bind_some,
            Thread.handler?, Option.some.injEq] at found
          rw [← found, unowned] at owned
          cases owned
      | succ name => simp [Server.handlers, onlyThread] at found
    · intro name canceling found
      cases name with
      | zero => simp [isThread] at found
      | succ name => simp [onlyThread] at found
    · intro name resetting found
      cases name with
      | zero => simp [isThread] at found
      | succ name => simp [onlyThread] at found
  refine ⟨_, service, run.exec_eq, ?_, ?_⟩
  · exact finished_tasks_reach_webhooks (by decide)
      WorkerPool.defaultPolicy_fits run before work after reached next ⟨"t"⟩
      .completed rfl toReached taken finishes Server.plainPush registered
      rested
  · cases tested
    intro action own
    cases action with
    | work worker => rcases worker with _ | _ | other <;> rfl
    | answer worker response => rcases worker with _ | _ | other <;> rfl
    | _ => cases own

end PushService

end A2AShim
