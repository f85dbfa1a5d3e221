import Mathlib.Algebra.BigOperators.Group.Finset.Basic
import A2AShim.Lib.Ledger
import A2AShim.Lib.Pool
import A2AShim.Lib.Progress
import A2AShim.Serve.RetrySchedule

/-!
# The workers that deliver push notifications

The workers share one queue behind a lock: who has the lock waits for a job,
gives the lock back and delivers the job before it asks for the lock again.
A job gets a ticket when it is queued.  The tickets follow a ledger, which says
where each job is at any time.
-/

namespace A2AShim

/-- What a request comes back with: an error of the HTTP client, or the status
of the response. -/
inductive Response where
  | failed (error : String)
  | status (code : Nat)
  deriving DecidableEq, Repr

structure Post where
  url : String
  contentType : String
  idempotencyKey : String
  authorization : Option String
  payload : Value
  deriving DecidableEq, Repr

namespace PushDelivery

/-- `authentication.{scheme,credentials}`, or the deprecated `token`. -/
def authorization (config : PushNotificationConfig) : Option String :=
  match config.authScheme, config.authCredentials with
  | some scheme, some credentials => some (scheme ++ " " ++ credentials)
  | _, _ => config.token.map fun token => "Bearer " ++ token

/-- The request that `try_once` sends. -/
def request (job : DeliveryJob) : Post :=
  { url := job.config.url
    contentType := "application/a2a+json"
    idempotencyKey :=
      "task-" ++ job.config.taskId ++ "-config-" ++ job.config.configId
    authorization := authorization job.config
    payload := job.payload }

/-- What `try_once` makes of the response. -/
def tryOnce : Response → Except DeliveryError Unit
  | .failed error => .error (.transient ("reqwest: " ++ error))
  | .status code =>
      if 200 ≤ code ∧ code < 300 ∨ 300 ≤ code ∧ code < 400 then
        .ok ()
      else if 500 ≤ code ∧ code < 600 ∨ code = 408 ∨ code = 429 then
        .error (.transient ("HTTP " ++ toString code))
      else
        .error (.permanentFailure code)

end PushDelivery

namespace DeliveryOutcome

/-- The label of `record_push_delivery`. -/
def label : DeliveryOutcome → String
  | .success => "success"
  | .permanentFailure => "permanent_failure"
  | .dropped => "dropped"

theorem label_injective {first second : DeliveryOutcome}
    (same : first.label = second.label) : first = second := by
  cases first <;> cases second <;> first | rfl | simp [label] at same

end DeliveryOutcome

namespace RetryPolicy

/-- How the loop of `deliver` goes on after an attempt. -/
inductive Turn where
  | ends (outcome : DeliveryOutcome)
  | waits (seconds : UInt64)
  | panics
  deriving DecidableEq, Repr

/-- One pass of the loop of `deliver`. -/
def turn (checks : Bool) (policy : RetryPolicy) (attempt : Nat) :
    Except DeliveryError Unit → Turn
  | .ok () => .ends .success
  | .error (.permanentFailure _) => .ends .permanentFailure
  | .error (.transient _) =>
      if policy.maxAttempts.toNat ≤ attempt then
        .ends .dropped
      else
        match waitSecs checks policy attempt with
        | none => .panics
        | some seconds => .waits seconds

def Turn.ending : Turn → DeliveryEnd
  | .ends outcome => .returned outcome
  | .waits _ => .retrying
  | .panics => .panicked

/-- The attempts of a delivery, the first included. -/
def attempts (policy : RetryPolicy) : Nat :=
  max 1 policy.maxAttempts.toNat

variable {checks : Bool} {policy : RetryPolicy}

theorem deliverFrom_cons
    (attempt : Nat) (result : Except DeliveryError Unit)
    (rest : List (Except DeliveryError Unit)) :
    (deliverFrom checks policy attempt (result :: rest)).ending =
      match turn checks policy attempt result with
      | .waits _ => (deliverFrom checks policy (attempt + 1) rest).ending
      | ended => ended.ending := by
  rcases result with error | done
  · cases error with
    | permanentFailure status => rfl
    | transient reason =>
        simp only [deliverFrom, turn]
        by_cases last : policy.maxAttempts.toNat ≤ attempt
        · rw [if_pos last, if_pos last]
          rfl
        · rw [if_neg last, if_neg last]
          cases waitSecs checks policy attempt with
          | none => rfl
          | some wait => rfl
  · rfl

/-- The last result decides, where those before it left the loop going. -/
theorem deliverFrom_snoc
    {attempt : Nat} {results : List (Except DeliveryError Unit)}
    (result : Except DeliveryError Unit)
    (going :
      (deliverFrom checks policy attempt results).ending = .retrying) :
    (deliverFrom checks policy attempt (results ++ [result])).ending =
      (turn checks policy (attempt + results.length) result).ending := by
  induction results generalizing attempt with
  | nil =>
      rw [List.nil_append, deliverFrom_cons]
      cases turn checks policy attempt result with
      | waits seconds => rfl
      | ends outcome => rfl
      | panics => rfl
  | cons first rest inductionHypothesis =>
      rw [deliverFrom_cons] at going
      rw [List.cons_append, deliverFrom_cons]
      cases isTurn : turn checks policy attempt first with
      | waits seconds =>
          rw [isTurn] at going
          have later := inductionHypothesis going
          rw [List.length_cons, Nat.add_comm rest.length, ← Nat.add_assoc]
          exact later
      | ends outcome =>
          rw [isTurn] at going
          cases going
      | panics =>
          rw [isTurn] at going
          cases going

/-- The waits after one more result, where the loop was going. -/
theorem length_waits_snoc
    {attempt : Nat} {results : List (Except DeliveryError Unit)}
    (result : Except DeliveryError Unit)
    (going :
      (deliverFrom checks policy attempt results).ending = .retrying) :
    (deliverFrom checks policy attempt (results ++ [result])).waits.length +
        (if (deliverFrom checks policy attempt
            (results ++ [result])).ending = .retrying then 0 else 1) =
      results.length + 1 := by
  induction results generalizing attempt with
  | nil =>
      rcases result with error | done
      · cases error with
        | permanentFailure status => rfl
        | transient reason =>
            simp only [List.nil_append, deliverFrom]
            by_cases last : policy.maxAttempts.toNat ≤ attempt
            · rw [if_pos last]
              rfl
            · rw [if_neg last]
              cases waitSecs checks policy attempt with
              | none => rfl
              | some wait => rfl
      · rfl
  | cons first rest inductionHypothesis =>
      rcases first with error | done
      · cases error with
        | permanentFailure status => cases going
        | transient reason =>
            simp only [deliverFrom] at going
            simp only [List.cons_append, deliverFrom]
            by_cases last : policy.maxAttempts.toNat ≤ attempt
            · rw [if_pos last] at going
              cases going
            · rw [if_neg last] at going ⊢
              cases isWait : waitSecs checks policy attempt with
              | none =>
                  rw [isWait] at going
                  cases going
              | some wait =>
                  rw [isWait] at going
                  have later := inductionHypothesis going
                  simp only [List.length_cons]
                  omega
      · cases going

theorem deliver_snoc
    {results : List (Except DeliveryError Unit)}
    (result : Except DeliveryError Unit)
    (going : (deliver checks policy results).ending = .retrying) :
    (deliver checks policy (results ++ [result])).ending =
      (turn checks policy (results.length + 1) result).ending := by
  rw [Nat.add_comm]
  exact deliverFrom_snoc result going

theorem waits_early
    {attempt : Nat} {result : Except DeliveryError Unit} {seconds : UInt64}
    (isTurn : turn checks policy attempt result = .waits seconds) :
    attempt < policy.maxAttempts.toNat := by
  rcases result with error | done
  · cases error with
    | permanentFailure status => cases isTurn
    | transient reason =>
        simp only [turn] at isTurn
        split at isTurn
        · cases isTurn
        · omega
  · cases isTurn

end RetryPolicy

/-- Where a worker is in its loop. -/
inductive WorkerPc where
  | locking
  | receiving
  | attempting (ticket : Nat) (job : DeliveryJob) (attempt : Nat)
  | sleeping (ticket : Nat) (job : DeliveryJob) (attempt : Nat)
      (seconds : UInt64)
  | recording (ticket : Nat) (job : DeliveryJob) (outcome : DeliveryOutcome)
  | deleting (ticket : Nat) (job : DeliveryJob) (outcome : DeliveryOutcome)
  | counting (ticket : Nat) (job : DeliveryJob) (outcome : DeliveryOutcome)
  | stopped
  | panicked (ticket : Nat) (job : DeliveryJob)
  deriving DecidableEq, Repr

namespace WorkerPc

def ticket? : WorkerPc → Option Nat
  | .attempting ticket _ _ | .sleeping ticket _ _ _
  | .recording ticket _ _ | .deleting ticket _ _
  | .counting ticket _ _ | .panicked ticket _ => some ticket
  | .locking | .receiving | .stopped => none

/-- Not at its end: the worker has its handle of the queue. -/
def isAlive : WorkerPc → Bool
  | .stopped | .panicked _ _ => false
  | _ => true

/-- Where the loop of `deliver` leaves the worker after an attempt. -/
def afterTurn (ticket : Nat) (job : DeliveryJob) (attempt : Nat) :
    RetryPolicy.Turn → WorkerPc
  | .ends outcome => .recording ticket job outcome
  | .waits seconds => .sleeping ticket job attempt seconds
  | .panics => .panicked ticket job

end WorkerPc

/-- `accepted` are the jobs that went into the queue, and `taken` the number
of those that came out.  `tried` are the requests sent, `answers` what came
back, and `counted` the deliveries that the metrics have seen, as the counters
`metrics` have. -/
structure WorkerPool where
  size : Nat
  accepted : List DeliveryJob
  taken : Nat
  closed : Bool
  lock : Option Nat
  workers : Pool Nat WorkerPc
  watched : Watched
  tried : List (Nat × Post)
  answers : Nat → List Response
  counted : List (Nat × DeliveryOutcome)
  metrics : String → Nat

namespace WorkerPool

/-- `close` is the end of the last sender. -/
inductive Action where
  | send (job : DeliveryJob)
  | close
  | work (worker : Nat)
  | answer (worker : Nat) (response : Response)
  | insert (config : PushNotificationConfig) (now : Nat)
  | delete (configId : String)
  deriving DecidableEq

/-- `start_worker_pool` -/
def start (size threshold : Nat) (rows : Option Rows) : WorkerPool :=
  { size
    accepted := []
    taken := 0
    closed := false
    lock := none
    workers := fun worker => if worker < size then some .locking else none
    watched := PushFailures.start threshold rows
    tried := []
    answers := fun _ => []
    counted := []
    metrics := fun _ => 0 }

def anyAlive (pool : WorkerPool) : Bool :=
  (List.range pool.size).any fun worker =>
    ((pool.workers worker).map WorkerPc.isAlive).getD false

def goTo (pool : WorkerPool) (worker : Nat) (pc : WorkerPc) : WorkerPool :=
  { pool with workers := pool.workers.put worker pc }

/-- The request of an attempt goes out. -/
def attempt (pool : WorkerPool) (worker ticket : Nat) (job : DeliveryJob)
    (number : Nat) : WorkerPool :=
  { pool with
    workers := pool.workers.put worker (.attempting ticket job number)
    tried := pool.tried ++ [(ticket, PushDelivery.request job)] }

/-- The match on the outcome in the loop of a worker, up to the metrics. -/
def record (pool : WorkerPool) (worker ticket : Nat) (job : DeliveryJob)
    (outcome : DeliveryOutcome) : WorkerPool :=
  let configId := job.config.configId
  let watched :=
    PushFailures.handle
      (PushFailures.remember pool.watched configId outcome) worker configId
      outcome
  { pool with
    watched
    workers :=
      pool.workers.put worker
        (if (watched.workers worker).isSome then
          .deleting ticket job outcome
        else
          .counting ticket job outcome) }

/-- `record_push_delivery` -/
def count (pool : WorkerPool) (worker ticket : Nat)
    (outcome : DeliveryOutcome) : WorkerPool :=
  { pool with
    workers := pool.workers.put worker .locking
    counted := pool.counted ++ [(ticket, outcome)]
    metrics :=
      Function.update pool.metrics outcome.label
        (pool.metrics outcome.label + 1) }

/-- A worker goes on by itself. -/
def work (worker : Nat) (pool : WorkerPool) : WorkerPc → Option WorkerPool
  | .locking =>
      if pool.lock = none then
        some { pool.goTo worker .receiving with lock := some worker }
      else
        none
  | .receiving =>
      match pool.accepted[pool.taken]? with
      | some job =>
          some
            { pool.attempt worker pool.taken job 1 with
              taken := pool.taken + 1
              lock := none }
      | none =>
          if pool.closed then
            some { pool.goTo worker .stopped with lock := none }
          else
            none
  | .sleeping ticket job number _ =>
      some (pool.attempt worker ticket job (number + 1))
  | .recording ticket job outcome =>
      some (pool.record worker ticket job outcome)
  | .deleting ticket job outcome =>
      (PushFailures.step (.workerDelete worker) pool.watched).map
        fun watched =>
          { pool.goTo worker (.counting ticket job outcome) with watched }
  | .counting ticket _ outcome => some (pool.count worker ticket outcome)
  | .attempting _ _ _ | .stopped | .panicked _ _ => none

/-- The response to a request, or the error of the client, comes back. -/
def answered (checks : Bool) (policy : RetryPolicy) (worker : Nat)
    (response : Response) (pool : WorkerPool) : WorkerPc → Option WorkerPool
  | .attempting ticket job number =>
      some
        { pool.goTo worker
            (.afterTurn ticket job number
              (policy.turn checks number (PushDelivery.tryOnce response))) with
          answers :=
            Function.update pool.answers ticket
              (pool.answers ticket ++ [response]) }
  | _ => none

/-- A job that is sent when no worker is left is lost. -/
def step (checks : Bool) (policy : RetryPolicy) :
    Action → WorkerPool → Option WorkerPool
  | .send job, pool =>
      if pool.closed then
        none
      else if pool.anyAlive then
        some { pool with accepted := pool.accepted ++ [job] }
      else
        some pool
  | .close, pool => some { pool with closed := true }
  | .work worker, pool => (pool.workers worker).bind (work worker pool)
  | .answer worker response, pool =>
      (pool.workers worker).bind (answered checks policy worker response pool)
  | .insert config now, pool =>
      (PushFailures.step (.insert config now) pool.watched).map
        fun watched => { pool with watched }
  | .delete configId, pool =>
      (PushFailures.step (.delete configId) pool.watched).map
        fun watched => { pool with watched }

/-! ## What a step does -/

section

variable {checks : Bool} {policy : RetryPolicy} {action : Action}
variable {pool target : WorkerPool}

/-- A step of a worker. -/
def isOwn : Action → Bool
  | .work _ | .answer _ _ => true
  | _ => false

/-- The steps, those of workers with where their worker was. -/
inductive Steps (checks : Bool) (policy : RetryPolicy) (pool : WorkerPool) :
    Bool → WorkerPool → Prop
  | loses : Steps checks policy pool false pool
  | sends (job : DeliveryJob) (isOpen : pool.closed = false) :
      Steps checks policy pool false
        { pool with accepted := pool.accepted ++ [job] }
  | closes : Steps checks policy pool false { pool with closed := true }
  | configures (watched : Watched) (same : watched.workers =
      pool.watched.workers) :
      Steps checks policy pool false { pool with watched }
  | locks (worker : Nat) (before : pool.workers worker = some .locking)
      (free : pool.lock = none) :
      Steps checks policy pool true
        { pool.goTo worker .receiving with lock := some worker }
  | receives (worker : Nat) (job : DeliveryJob)
      (before : pool.workers worker = some .receiving)
      (isNext : pool.accepted[pool.taken]? = some job) :
      Steps checks policy pool true
        { pool.attempt worker pool.taken job 1 with
          taken := pool.taken + 1
          lock := none }
  | stops (worker : Nat) (before : pool.workers worker = some .receiving)
      (isEmpty : pool.accepted[pool.taken]? = none)
      (closed : pool.closed = true) :
      Steps checks policy pool true
        { pool.goTo worker .stopped with lock := none }
  | retries (worker ticket : Nat) (job : DeliveryJob) (number : Nat)
      (seconds : UInt64)
      (before :
        pool.workers worker = some (.sleeping ticket job number seconds)) :
      Steps checks policy pool true (pool.attempt worker ticket job (number + 1))
  | records (worker ticket : Nat) (job : DeliveryJob)
      (outcome : DeliveryOutcome)
      (before :
        pool.workers worker = some (.recording ticket job outcome)) :
      Steps checks policy pool true (pool.record worker ticket job outcome)
  | deletes (worker ticket : Nat) (job : DeliveryJob)
      (outcome : DeliveryOutcome) (watched : Watched)
      (before : pool.workers worker = some (.deleting ticket job outcome))
      (deleted :
        PushFailures.step (.workerDelete worker) pool.watched =
          some watched) :
      Steps checks policy pool true
        { pool.goTo worker (.counting ticket job outcome) with watched }
  | counts (worker ticket : Nat) (job : DeliveryJob)
      (outcome : DeliveryOutcome)
      (before : pool.workers worker = some (.counting ticket job outcome)) :
      Steps checks policy pool true (pool.count worker ticket outcome)
  | answers (worker ticket : Nat) (job : DeliveryJob) (number : Nat)
      (response : Response)
      (before : pool.workers worker = some (.attempting ticket job number)) :
      Steps checks policy pool true
        { pool.goTo worker
            (.afterTurn ticket job number
              (policy.turn checks number
                (PushDelivery.tryOnce response))) with
          answers :=
            Function.update pool.answers ticket
              (pool.answers ticket ++ [response]) }

theorem workers_of_insert
    {config : PushNotificationConfig} {now : Nat} {watched after : Watched}
    (taken :
      PushFailures.step (.insert config now) watched = some after) :
    after.workers = watched.workers := by
  simp only [PushFailures.step] at taken
  split at taken <;> cases taken <;> rfl

theorem steps_of_work
    {worker : Nat} {pc : WorkerPc} (found : pool.workers worker = some pc)
    (taken : work worker pool pc = some target) :
    Steps checks policy pool true target := by
  cases pc with
  | locking =>
      simp only [work] at taken
      split at taken
      · rename_i free
        cases taken
        exact .locks worker found free
      · cases taken
  | receiving =>
      simp only [work] at taken
      cases isNext : pool.accepted[pool.taken]? with
      | some job =>
          rw [isNext] at taken
          cases taken
          exact .receives worker job found isNext
      | none =>
          rw [isNext] at taken
          simp only at taken
          split at taken
          · rename_i closed
            cases taken
            exact .stops worker found isNext closed
          · cases taken
  | sleeping ticket job number seconds =>
      cases taken
      exact .retries worker ticket job number seconds found
  | recording ticket job outcome =>
      cases taken
      exact .records worker ticket job outcome found
  | deleting ticket job outcome =>
      simp only [work] at taken
      obtain ⟨watched, deleted, rfl⟩ := Option.map_eq_some_iff.mp taken
      exact .deletes worker ticket job outcome watched found deleted
  | counting ticket job outcome =>
      cases taken
      exact .counts worker ticket job outcome found
  | attempting ticket job number => cases taken
  | stopped => cases taken
  | panicked ticket job => cases taken

theorem steps_of_step
    (taken : step checks policy action pool = some target) :
    Steps checks policy pool (isOwn action) target := by
  cases action with
  | send job =>
      simp only [step] at taken
      split at taken
      · cases taken
      · rename_i isOpen
        split at taken
        · cases taken
          exact .sends job (Bool.eq_false_of_not_eq_true isOpen)
        · cases taken
          exact .loses
  | close =>
      cases taken
      exact .closes
  | work worker =>
      obtain ⟨pc, found, worked⟩ := Option.bind_eq_some_iff.mp taken
      exact steps_of_work found worked
  | answer worker response =>
      obtain ⟨pc, found, worked⟩ := Option.bind_eq_some_iff.mp taken
      cases pc with
      | attempting ticket job number =>
          cases worked
          exact .answers worker ticket job number response found
      | _ => cases worked
  | insert config now =>
      obtain ⟨watched, inserted, rfl⟩ := Option.map_eq_some_iff.mp taken
      exact .configures watched (workers_of_insert inserted)
  | delete configId =>
      cases taken
      exact .configures (PushFailures.delete pool.watched configId) rfl

/-! ## The ledger of the pool -/

def ledger (pool : WorkerPool) : Ledger Nat :=
  { issued := pool.accepted.length
    taken := pool.taken
    holder := fun worker => (pool.workers worker).bind WorkerPc.ticket?
    done := fun ticket => decide (ticket ∈ pool.counted.map Prod.fst) }

theorem ticket_afterTurn
    (ticket number : Nat) (job : DeliveryJob) (turn : RetryPolicy.Turn) :
    (WorkerPc.afterTurn ticket job number turn).ticket? = some ticket := by
  cases turn <;> rfl

/-- The holders after a worker has moved. -/
theorem holder_put (worker : Nat) (pc : WorkerPc) :
    (fun other => (pool.workers.put worker pc other).bind WorkerPc.ticket?) =
      Function.update pool.ledger.holder worker pc.ticket? := by
  funext other
  by_cases same : other = worker
  · rw [same, Pool.put_self, Function.update_self]
    rfl
  · rw [Pool.put_other same, Function.update_of_ne same]
    rfl

/-- A worker that keeps its ticket, or goes on without one, leaves the ledger
as it is. -/
theorem ledger_moves
    {worker : Nat} {before : WorkerPc} (pc : WorkerPc)
    (found : pool.workers worker = some before)
    (keeps : pc.ticket? = before.ticket?)
    (accepted : target.accepted = pool.accepted)
    (taken : target.taken = pool.taken)
    (counted : target.counted = pool.counted)
    (workers : target.workers = pool.workers.put worker pc) :
    pool.ledger.Step target.ledger := by
  have holder : pool.ledger.holder worker = pc.ticket? := by
    rw [keeps]
    exact congrArg (·.bind WorkerPc.ticket?) found
  have same : target.ledger = pool.ledger := by
    rw [ledger, accepted, taken, counted, workers, holder_put, ← holder,
      Function.update_eq_self]
    rfl
  rw [same]
  exact .stays

theorem done_count (worker ticket : Nat) (outcome : DeliveryOutcome) :
    (pool.count worker ticket outcome).ledger.done =
      Function.update pool.ledger.done ticket true := by
  funext other
  by_cases same : other = ticket
  · rw [same, Function.update_self]
    simp [ledger, count]
  · rw [Function.update_of_ne same]
    simp only [ledger, count, List.map_append, List.mem_append, List.map_cons,
      List.map_nil, List.mem_singleton, same, or_false]

theorem ledger_of_step
    {own : Bool} (taken : Steps checks policy pool own target) :
    pool.ledger.Step target.ledger := by
  cases taken with
  | loses => exact .stays
  | closes => exact .stays
  | configures watched same => exact .stays
  | sends job isOpen =>
      have issued : ({ pool with accepted := pool.accepted ++ [job] } :
          WorkerPool).ledger =
            { pool.ledger with issued := pool.ledger.issued + 1 } := by
        simp [ledger]
      rw [issued]
      exact .issues
  | locks worker before free =>
      exact ledger_moves .receiving before rfl rfl rfl rfl rfl
  | stops worker before isEmpty closed =>
      exact ledger_moves .stopped before rfl rfl rfl rfl rfl
  | retries worker ticket job number seconds before =>
      exact ledger_moves (.attempting ticket job (number + 1)) before rfl rfl
        rfl rfl rfl
  | records worker ticket job outcome before =>
      refine ledger_moves _ before ?_ rfl rfl rfl rfl
      split <;> rfl
  | deletes worker ticket job outcome watched before deleted =>
      exact ledger_moves (.counting ticket job outcome) before rfl rfl rfl rfl
        rfl
  | answers worker ticket job number response before =>
      exact ledger_moves _ before (ticket_afterTurn ticket number job _) rfl
        rfl rfl rfl
  | receives worker job before isNext =>
      have waiting : pool.ledger.taken < pool.ledger.issued :=
        (List.getElem?_eq_some_iff.mp isNext).1
      have free : pool.ledger.holder worker = none :=
        congrArg (·.bind WorkerPc.ticket?) before
      have same : ({ pool.attempt worker pool.taken job 1 with
          taken := pool.taken + 1
          lock := none } : WorkerPool).ledger = pool.ledger.take worker :=
        Ledger.ext rfl rfl
          (holder_put worker (.attempting pool.taken job 1)) rfl
      rw [same]
      exact .takes worker free waiting
  | counts worker ticket job outcome before =>
      have holds : pool.ledger.holder worker = some ticket :=
        congrArg (·.bind WorkerPc.ticket?) before
      have same : (pool.count worker ticket outcome).ledger =
          pool.ledger.finish worker ticket :=
        Ledger.ext rfl rfl (holder_put worker .locking)
          (done_count worker ticket outcome)
      rw [same]
      exact .finishes worker ticket holds

end

end WorkerPool

end A2AShim
