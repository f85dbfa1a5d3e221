import A2AShim.Serve.Deliveries

/-!
# Deliveries come to an end

Each worker counts down between two jobs, so a pool takes a bounded number of
steps for the jobs it accepts.  And while a worker is left, the pool stops for
one reason only: the queue is empty, and whoever has its lock waits for a job.
-/

namespace A2AShim

namespace WorkerPool

open Machine

variable {checks : Bool} {policy : RetryPolicy} {action : Action}
variable {pool target : WorkerPool}

/-! ## The bound -/

/-- The steps that a worker has left until it asks for the next job, or is at
its end. -/
def rank (policy : RetryPolicy) : WorkerPc → Nat
  | .locking => 2
  | .receiving => 1
  | .attempting _ _ number => 6 + 2 * (policy.attempts - number)
  | .sleeping _ _ number _ => 5 + 2 * (policy.attempts - number)
  | .recording _ _ _ => 5
  | .deleting _ _ _ => 4
  | .counting _ _ _ => 3
  | .stopped | .panicked _ _ => 0

/-- The steps that a job costs at most. -/
def jobCost (policy : RetryPolicy) : Nat :=
  4 + 2 * policy.attempts

/-- The workers are those of the first names. -/
def Staffed (pool : WorkerPool) : Prop :=
  ∀ worker, worker < pool.size ↔ ∃ pc, pool.workers worker = some pc

theorem Staffed.put
    {worker : Nat} {before pc : WorkerPc}
    (staffed : Staffed pool) (found : pool.workers worker = some before)
    (size : target.size = pool.size)
    (workers : target.workers = pool.workers.put worker pc) :
    Staffed target := by
  intro other
  rw [size, workers, staffed other]
  by_cases same : other = worker
  · rw [same, Pool.put_self]
    exact ⟨fun _ => ⟨pc, rfl⟩, fun _ => ⟨before, found⟩⟩
  · rw [Pool.put_other same]

/-- What a worker does: it lowers its rank, but for the step that gets it a
job. -/
structure Lowers (policy : RetryPolicy) (pool target : WorkerPool) : Prop where
  staffed : Staffed target
  size : target.size = pool.size
  lower :
    target.workers.total (rank policy) pool.size + 1 +
        jobCost policy * pool.taken ≤
      pool.workers.total (rank policy) pool.size +
        jobCost policy * target.taken

theorem lowers
    {worker : Nat} {before : WorkerPc} (pc : WorkerPc)
    (staffed : Staffed pool) (found : pool.workers worker = some before)
    (size : target.size = pool.size)
    (workers : target.workers = pool.workers.put worker pc)
    (lower : rank policy pc + 1 + jobCost policy * pool.taken ≤
      rank policy before + jobCost policy * target.taken) :
    Lowers policy pool target := by
  refine ⟨staffed.put found size workers, size, ?_⟩
  have inside : worker < pool.size := (staffed worker).mpr ⟨before, found⟩
  have total := Pool.total_put (rank policy) pc found inside
  rw [← workers] at total
  omega

theorem rank_turn
    {ticket number : Nat} {job : DeliveryJob}
    (result : Except DeliveryError Unit) :
    rank policy (.afterTurn ticket job number
        (policy.turn checks number result)) + 1 ≤
      rank policy (.attempting ticket job number) := by
  cases policy.turn checks number result with
  | ends outcome =>
      simp only [WorkerPc.afterTurn, rank]
      omega
  | waits seconds =>
      simp only [WorkerPc.afterTurn, rank]
      omega
  | panics =>
      simp only [WorkerPc.afterTurn, rank]
      omega

theorem lowers_of_step
    (tracked : Tracked checks policy pool) (staffed : Staffed pool)
    (taken : Steps checks policy pool true target) :
    Lowers policy pool target := by
  cases taken with
  | locks worker before free =>
      refine lowers .receiving staffed before rfl rfl ?_
      exact Nat.le_refl _
  | receives worker job before isNext =>
      refine lowers (.attempting pool.taken job 1) staffed before rfl rfl ?_
      have first : 1 ≤ policy.attempts := Nat.le_max_left _ _
      simp only [rank, jobCost, Nat.mul_add]
      omega
  | stops worker before isEmpty closed =>
      refine lowers .stopped staffed before rfl rfl ?_
      exact Nat.le_refl _
  | retries worker ticket job number seconds before =>
      have few := (tracked.held worker _ before).1
      refine lowers (.attempting ticket job (number + 1)) staffed before rfl
        rfl ?_
      simp only [rank, WorkerPool.attempt]
      omega
  | records worker ticket job outcome before =>
      refine lowers _ staffed before rfl rfl ?_
      split
      · exact Nat.le_refl _
      · simp only [rank, record]
        omega
  | deletes worker ticket job outcome watched before deleted =>
      refine lowers (.counting ticket job outcome) staffed before rfl rfl ?_
      exact Nat.le_refl _
  | counts worker ticket job outcome before =>
      refine lowers .locking staffed before rfl rfl ?_
      exact Nat.le_refl _
  | answers worker ticket job number response before =>
      refine lowers _ staffed before rfl rfl ?_
      exact Nat.add_le_add_right
        (rank_turn (PushDelivery.tryOnce response)) _

/-- What the others do concerns no worker. -/
theorem workers_of_step (taken : Steps checks policy pool false target) :
    target.workers = pool.workers ∧ target.taken = pool.taken ∧
      target.size = pool.size := by
  cases taken with
  | loses => exact ⟨rfl, rfl, rfl⟩
  | sends job isOpen => exact ⟨rfl, rfl, rfl⟩
  | closes => exact ⟨rfl, rfl, rfl⟩
  | configures watched same => exact ⟨rfl, rfl, rfl⟩

theorem Staffed.step
    {own : Bool} (staffed : Staffed pool)
    (tracked : Tracked checks policy pool)
    (taken : Steps checks policy pool own target) : Staffed target := by
  cases own with
  | true => exact (lowers_of_step tracked staffed taken).staffed
  | false =>
      have ⟨workers, _, size⟩ := workers_of_step taken
      intro worker
      rw [workers, size]
      exact staffed worker

/-- What the jobs may have cost, less the steps the workers have left. -/
def account (policy : RetryPolicy) (pool : WorkerPool) : Int :=
  jobCost policy * pool.taken - pool.workers.total (rank policy) pool.size

theorem account_of_step
    (tracked : Tracked checks policy pool) (staffed : Staffed pool)
    (taken : step checks policy action pool = some target) :
    account policy pool + (if isOwn action then 1 else 0) ≤
      account policy target := by
  have steps := steps_of_step taken
  cases own : isOwn action with
  | true =>
      rw [own] at steps
      have lower := lowers_of_step tracked staffed steps
      have less := lower.lower
      rw [account, account, lower.size, if_pos rfl]
      omega
  | false =>
      rw [own] at steps
      have ⟨workers, isTaken, size⟩ := workers_of_step steps
      rw [account, account, workers, isTaken, size, if_neg (by simp)]
      omega

theorem staffed_start (size threshold : Nat) (rows : Option Rows) :
    Staffed (start size threshold rows) := by
  intro worker
  simp only [start]
  split
  · rename_i inside
    exact ⟨fun _ => ⟨.locking, rfl⟩, fun _ => inside⟩
  · rename_i outside
    constructor
    · intro inside
      contradiction
    · rintro ⟨pc, found⟩
      contradiction

variable (policy) in
theorem total_start (size threshold : Nat) (rows : Option Rows) :
    (start size threshold rows).workers.total (rank policy) size =
      2 * size := by
  have each : ∀ worker ∈ Finset.range size,
      (((start size threshold rows).workers worker).map (rank policy)).getD 0 =
        2 := by
    intro worker inside
    simp only [start, if_pos (Finset.mem_range.mp inside)]
    rfl
  rw [Pool.total, Finset.sum_const_nat each, Finset.card_range, Nat.mul_comm]

theorem size_of_steps
    {own : Bool} (taken : Steps checks policy pool own target) :
    target.size = pool.size := by
  cases taken <;> rfl

theorem size_of_run
    {size threshold : Nat} {rows : Option Rows} {trace : List Action}
    (run : Run (WorkerPool.step checks policy) free
      (start size threshold rows) trace pool) :
    pool.size = size := by
  refine run.invariant (fun reached => reached.size = size) rfl ?_
  intro source action next same _ taken
  exact (size_of_steps (steps_of_step taken)).trans same

/-- The steps of the workers, for the jobs that they have taken. -/
theorem own_steps_bounded
    {size threshold : Nat} {rows : Option Rows} {trace : List Action}
    (run : Run (WorkerPool.step checks policy) free
      (start size threshold rows) trace pool) :
    trace.countP isOwn ≤ jobCost policy * pool.taken + 2 * size := by
  have counted :=
    run.count_le
      (fun reached => Tracked checks policy reached ∧ Staffed reached)
      isOwn (account policy)
      ⟨tracked_start size threshold rows, staffed_start size threshold rows⟩
      (by
        intro source action next holds _ taken
        have steps := steps_of_step taken
        exact ⟨holds.1.step steps, holds.2.step holds.1 steps⟩)
      (by
        intro source action next holds _ taken
        exact account_of_step holds.1 holds.2 taken)
  have atStart : account policy (start size threshold rows) =
      - (2 * size : Nat) := by
    have total := total_start policy size threshold rows
    rw [account]
    simp only [start] at total ⊢
    omega
  rw [atStart] at counted
  unfold account at counted
  omega

/-! ## Why the pool stops -/

/-- The configuration that a worker is about to delete. -/
def deletes? : WorkerPc → Option String
  | .deleting _ job _ => some job.config.configId
  | _ => none

/-- The lock is with a worker that waits for a job, the registry knows what
the workers are about to delete, and a worker stops when nothing is to
come. -/
structure Orderly (pool : WorkerPool) : Prop where
  lock : ∀ worker, pool.lock = some worker →
    pool.workers worker = some .receiving
  deleting : pool.watched.workers =
    fun worker => (pool.workers worker).bind deletes?
  stopped : ∀ worker, pool.workers worker = some .stopped →
    pool.closed = true ∧ pool.accepted[pool.taken]? = none

theorem orderly_start (size threshold : Nat) (rows : Option Rows) :
    Orderly (start size threshold rows) := by
  refine ⟨?_, ?_, ?_⟩
  · intro worker locked
    cases locked
  · funext worker
    simp only [start, PushFailures.start]
    split <;> rfl
  · intro worker found
    simp only [start] at found
    split at found <;> cases found

theorem deletes_put (worker : Nat) (pc : WorkerPc) :
    (fun other => (pool.workers.put worker pc other).bind deletes?) =
      Function.update (fun other => (pool.workers other).bind deletes?) worker
        (deletes? pc) := by
  funext other
  by_cases same : other = worker
  · rw [same, Pool.put_self, Function.update_self]
    rfl
  · rw [Pool.put_other same, Function.update_of_ne same]

theorem workers_of_handle
    (watched : Watched) (worker : Nat) (configId : String)
    (outcome : DeliveryOutcome) :
    let handled :=
      PushFailures.handle (PushFailures.remember watched configId outcome)
        worker configId outcome
    handled.workers = watched.workers ∨
      handled.workers =
        Function.update watched.workers worker (some configId) := by
  cases outcome with
  | success => exact .inl rfl
  | dropped => exact .inl rfl
  | permanentFailure =>
      rw [PushFailures.handle_permanentFailure]
      dsimp only
      split
      · exact .inr rfl
      · exact .inl rfl

/-- A worker moves on, with the lock where it was or given back. -/
theorem Orderly.moves
    {worker : Nat} {before : WorkerPc} (pc : WorkerPc) (orderly : Orderly pool)
    (found : pool.workers worker = some before)
    (workers : target.workers = pool.workers.put worker pc)
    (lock : target.lock = none ∨
      target.lock = some worker ∧ pc = .receiving ∨
        target.lock = pool.lock ∧ before ≠ .receiving)
    (deleting : target.watched.workers =
      Function.update pool.watched.workers worker (deletes? pc))
    (running : pc = .stopped →
      target.closed = true ∧ target.accepted[target.taken]? = none)
    (ended : ∀ other, pool.workers other = some .stopped →
      target.closed = true ∧ target.accepted[target.taken]? = none) :
    Orderly target := by
  refine ⟨?_, ?_, ?_⟩
  · intro other locked
    rcases lock with free | ⟨own, isReceiving⟩ | ⟨same, notReceiving⟩
    · rw [free] at locked
      contradiction
    · rw [own] at locked
      rw [workers, ← Option.some.inj locked, isReceiving, Pool.put_self]
    · rw [same] at locked
      have receiving := orderly.lock other locked
      have different : other ≠ worker := by
        intro isWorker
        rw [isWorker, found] at receiving
        exact notReceiving (Option.some.inj receiving)
      rw [workers, Pool.put_other different]
      exact receiving
  · rw [deleting, workers, deletes_put, orderly.deleting]
  · intro other found
    rw [workers] at found
    rcases Pool.put_cases found with ⟨_, isPc⟩ | ⟨_, stopped⟩
    · exact running isPc.symm
    · exact ended other stopped

theorem Orderly.idle
    {worker : Nat} {pc : WorkerPc} (orderly : Orderly pool)
    (found : pool.workers worker = some pc) :
    pool.watched.workers worker = deletes? pc := by
  rw [orderly.deleting]
  exact congrArg (·.bind deletes?) found

/-- Nothing is about to be deleted before or after. -/
theorem Orderly.update_idle
    {worker : Nat} {pc : WorkerPc} (orderly : Orderly pool)
    (found : pool.workers worker = some pc) (notDeleting : deletes? pc = none) :
    pool.watched.workers =
      Function.update pool.watched.workers worker none := by
  rw [← notDeleting, ← orderly.idle found, Function.update_eq_self]

theorem Orderly.records
    {worker ticket : Nat} {job : DeliveryJob} {outcome : DeliveryOutcome}
    (orderly : Orderly pool)
    (before : pool.workers worker = some (.recording ticket job outcome)) :
    Orderly (pool.record worker ticket job outcome) := by
  have idle := orderly.idle before
  refine orderly.moves _ before rfl (.inr (.inr ⟨rfl, by simp⟩)) ?_ ?_
    orderly.stopped
  · have handled :=
      workers_of_handle pool.watched worker job.config.configId outcome
    rcases handled with same | deleting
    · rw [same, idle]
      exact same.trans (orderly.update_idle before rfl)
    · rw [deleting, Function.update_self]
      exact deleting
  · split
    · intro stopped
      contradiction
    · intro stopped
      contradiction

theorem Orderly.deletes
    {worker ticket : Nat} {job : DeliveryJob} {outcome : DeliveryOutcome}
    {watched : Watched} (orderly : Orderly pool)
    (before : pool.workers worker = some (.deleting ticket job outcome))
    (deleted :
      PushFailures.step (.workerDelete worker) pool.watched = some watched) :
    Orderly
      { pool.goTo worker (.counting ticket job outcome) with watched } := by
  obtain ⟨configId, _, isWatched⟩ := Option.map_eq_some_iff.mp deleted
  refine orderly.moves (.counting ticket job outcome) before rfl
    (.inr (.inr ⟨rfl, by simp⟩)) ?_ (by simp) orderly.stopped
  rw [← isWatched]
  rfl

theorem Orderly.step
    {own : Bool} (orderly : Orderly pool)
    (taken : Steps checks policy pool own target) : Orderly target := by
  cases taken with
  | loses => exact orderly
  | closes =>
      refine ⟨orderly.lock, orderly.deleting, ?_⟩
      intro worker found
      exact ⟨rfl, (orderly.stopped worker found).2⟩
  | configures watched same =>
      exact ⟨orderly.lock, same.trans orderly.deleting, orderly.stopped⟩
  | sends job isOpen =>
      refine ⟨orderly.lock, orderly.deleting, ?_⟩
      intro worker found
      have closed := (orderly.stopped worker found).1
      rw [isOpen] at closed
      contradiction
  | locks worker before free =>
      exact orderly.moves .receiving before rfl (.inr (.inl ⟨rfl, rfl⟩))
        (orderly.update_idle before rfl) (by simp) orderly.stopped
  | receives worker job before isNext =>
      refine orderly.moves (.attempting pool.taken job 1) before rfl
        (.inl rfl) (orderly.update_idle before rfl) (by simp) ?_
      intro other found
      have isEmpty := (orderly.stopped other found).2
      rw [isNext] at isEmpty
      contradiction
  | stops worker before isEmpty closed =>
      exact orderly.moves .stopped before rfl (.inl rfl)
        (orderly.update_idle before rfl) (fun _ => ⟨closed, isEmpty⟩)
        orderly.stopped
  | retries worker ticket job number seconds before =>
      exact orderly.moves (.attempting ticket job (number + 1)) before rfl
        (.inr (.inr ⟨rfl, by simp⟩)) (orderly.update_idle before rfl)
        (by simp) orderly.stopped
  | records worker ticket job outcome before => exact orderly.records before
  | deletes worker ticket job outcome watched before deleted =>
      exact orderly.deletes before deleted
  | counts worker ticket job outcome before =>
      exact orderly.moves .locking before rfl (.inr (.inr ⟨rfl, by simp⟩))
        (orderly.update_idle before rfl) (by simp) orderly.stopped
  | answers worker ticket job number response before =>
      refine orderly.moves _ before rfl (.inr (.inr ⟨rfl, by simp⟩)) ?_ ?_
        orderly.stopped
      · cases policy.turn checks number (PushDelivery.tryOnce response) <;>
          exact orderly.update_idle before rfl
      · cases policy.turn checks number (PushDelivery.tryOnce response) <;>
          exact fun stopped => WorkerPc.noConfusion stopped

/-- No worker can go on. -/
def Settled (checks : Bool) (policy : RetryPolicy) (pool : WorkerPool) :
    Prop :=
  ∀ action, isOwn action = true → step checks policy action pool = none

theorem Settled.not_works
    {worker : Nat} {pc : WorkerPc} (settled : Settled checks policy pool)
    (found : pool.workers worker = some pc) :
    work worker pool pc = none ∧
      ∀ response, answered checks policy worker response pool pc = none := by
  refine ⟨?_, ?_⟩
  · have stuck := settled (.work worker) rfl
    simp only [step, found, Option.bind_some] at stuck
    exact stuck
  · intro response
    have stuck := settled (.answer worker response) rfl
    simp only [step, found, Option.bind_some] at stuck
    exact stuck

/-- A worker that receives is stuck only on an empty queue. -/
theorem Settled.empty
    {worker : Nat} (settled : Settled checks policy pool)
    (found : pool.workers worker = some .receiving) :
    pool.accepted[pool.taken]? = none := by
  have stuck := (settled.not_works found).1
  simp only [work] at stuck
  cases isNext : pool.accepted[pool.taken]? with
  | none => rfl
  | some job =>
      rw [isNext] at stuck
      cases stuck

/-- Where the workers of a settled pool are. -/
theorem Settled.worker
    {worker : Nat} {pc : WorkerPc} (settled : Settled checks policy pool)
    (orderly : Orderly pool) (found : pool.workers worker = some pc) :
    (∃ ticket job, pc = .panicked ticket job) ∨
      pc.ticket? = none ∧ pool.accepted[pool.taken]? = none := by
  have ⟨stuck, unanswered⟩ := settled.not_works found
  cases pc with
  | locking =>
      simp only [work] at stuck
      cases locked : pool.lock with
      | none =>
          rw [if_pos locked] at stuck
          cases stuck
      | some holder =>
          exact .inr ⟨rfl, settled.empty (orderly.lock holder locked)⟩
  | receiving => exact .inr ⟨rfl, settled.empty found⟩
  | stopped => exact .inr ⟨rfl, (orderly.stopped worker found).2⟩
  | panicked ticket job => exact .inl ⟨ticket, job, rfl⟩
  | attempting ticket job number =>
      have stuckThere := unanswered (.status 200)
      cases stuckThere
  | sleeping ticket job number seconds => cases stuck
  | recording ticket job outcome => cases stuck
  | counting ticket job outcome => cases stuck
  | deleting ticket job outcome =>
      have isDeleting := orderly.idle found
      simp only [work, PushFailures.step, isDeleting, deletes?] at stuck
      cases stuck

/-- The worker was lost on the ticket, in the arithmetic of the waits. -/
def LostOn (checks : Bool) (policy : RetryPolicy) (pool : WorkerPool)
    (ticket worker : Nat) : Prop :=
  (∃ job, pool.workers worker = some (.panicked ticket job)) ∧
    (delivery checks policy pool ticket).ending = .panicked

theorem lostOn_of_panicked
    {worker ticket : Nat} {job : DeliveryJob}
    (tracked : Tracked checks policy pool)
    (found : pool.workers worker = some (.panicked ticket job)) :
    LostOn checks policy pool ticket worker := by
  have ⟨tries, _, reached⟩ := tracked.held worker _ found
  exact ⟨⟨job, found⟩, reached.stands⟩

theorem Settled.job
    {ticket : Nat} (settled : Settled checks policy pool)
    (orderly : Orderly pool) (tracked : Tracked checks policy pool)
    (staffed : Staffed pool) (isIssued : ticket < pool.accepted.length) :
    (∃ outcome, (ticket, outcome) ∈ pool.counted) ∨
      (∃ worker, LostOn checks policy pool ticket worker) ∨
        ∀ worker, worker < pool.size →
          ∃ lost, LostOn checks policy pool lost worker := by
  have ⟨place, isAt, _⟩ := tracked.fair.place isIssued
  cases place with
  | done =>
      have listed : ticket ∈ pool.counted.map Prod.fst :=
        of_decide_eq_true isAt
      obtain ⟨⟨_, outcome⟩, member, rfl⟩ := List.mem_map.mp listed
      exact .inl ⟨outcome, member⟩
  | held worker =>
      obtain ⟨pc, found, isTicket⟩ := Option.bind_eq_some_iff.mp isAt
      have stuck := settled.worker orderly found
      rcases stuck with ⟨other, job, isPc⟩ | ⟨free, _⟩
      · rw [isPc] at isTicket found
        have same : other = ticket := Option.some.inj isTicket
        rw [same] at found
        exact .inr (.inl ⟨worker, lostOn_of_panicked tracked found⟩)
      · rw [free] at isTicket
        contradiction
  | waiting =>
      refine .inr (.inr ?_)
      intro worker inside
      have ⟨pc, found⟩ := (staffed worker).mp inside
      have stuck := settled.worker orderly found
      rcases stuck with ⟨other, job, isPc⟩ | ⟨_, empty⟩
      · rw [isPc] at found
        exact ⟨other, lostOn_of_panicked tracked found⟩
      · have late := List.getElem?_eq_none_iff.mp empty
        have waits : pool.taken ≤ ticket := isAt.1
        omega

/-- With numbers of 64 bits no worker is lost. -/
theorem not_lostOn
    {ticket worker : Nat}
    (fits : ∀ retry, retry + 1 < policy.maxAttempts.toNat →
      policy.Fits retry) :
    ¬ LostOn checks policy pool ticket worker := by
  intro lost
  let results := (pool.answers ticket).map PushDelivery.tryOnce
  have retries : policy.retries results ≤ policy.maxAttempts.toNat - 1 :=
    Nat.min_le_right _ _
  have runs : (policy.deliver checks results).ending ≠ .panicked := by
    apply RetryPolicy.runs_of_fits
    intro retry below
    exact fits retry (by omega)
  exact runs lost.2

theorem facts_of_run
    {size threshold : Nat} {rows : Option Rows} {trace : List Action}
    (run : Run (WorkerPool.step checks policy) free
      (start size threshold rows) trace pool) :
    Tracked checks policy pool ∧ Staffed pool ∧ Orderly pool :=
  run.invariant
    (fun reached =>
      Tracked checks policy reached ∧ Staffed reached ∧ Orderly reached)
    ⟨tracked_start size threshold rows, staffed_start size threshold rows,
      orderly_start size threshold rows⟩
    (by
      intro source action next holds _ taken
      have steps := steps_of_step taken
      exact ⟨holds.1.step steps, holds.2.1.step holds.1 steps,
        holds.2.2.step steps⟩)

/-- The workers take a bounded number of steps for the jobs in the queue, and
where none of them can go on, each job has been counted, or its worker, or
every worker, was lost to an overflow.  With numbers of 64 bits each job has
been counted. -/
theorem deliveries_come_to_end
    {size threshold : Nat} {rows : Option Rows} {trace : List Action}
    (run : Run (WorkerPool.step checks policy) free
      (start size threshold rows) trace pool) :
    trace.countP isOwn ≤
        jobCost policy * pool.accepted.length + 2 * size ∧
      (Settled checks policy pool →
        ∀ ticket, ticket < pool.accepted.length →
          (∃ outcome, (ticket, outcome) ∈ pool.counted) ∨
            (∃ worker, LostOn checks policy pool ticket worker) ∨
              ∀ worker, worker < size →
                ∃ lost, LostOn checks policy pool lost worker) ∧
        (Settled checks policy pool → 0 < size →
          (∀ retry, retry + 1 < policy.maxAttempts.toNat →
            policy.Fits retry) →
            ∀ ticket, ticket < pool.accepted.length →
              ∃ outcome, (ticket, outcome) ∈ pool.counted) := by
  have ⟨tracked, staffed, orderly⟩ := facts_of_run run
  have bounded := own_steps_bounded run
  have inOrder : pool.taken ≤ pool.accepted.length := tracked.fair.inOrder
  have cost := Nat.mul_le_mul_left (jobCost policy) inOrder
  have sameSize := size_of_run run
  refine ⟨by omega, ?_, ?_⟩
  · intro settled ticket isIssued
    rw [← sameSize]
    exact settled.job orderly tracked staffed isIssued
  · intro settled someone fits ticket isIssued
    rcases settled.job orderly tracked staffed isIssued with
      counted | ⟨worker, lost⟩ | all
    · exact counted
    · exact absurd lost (not_lostOn fits)
    · have ⟨ticket, lost⟩ := all 0 (by omega)
      exact absurd lost (not_lostOn fits)

theorem defaultPolicy_fits :
    ∀ retry, retry + 1 < RetryPolicy.defaultPolicy.maxAttempts.toNat →
      RetryPolicy.defaultPolicy.Fits retry := by
  intro retry below
  have few : RetryPolicy.defaultPolicy.maxAttempts.toNat = 3 := rfl
  have either : retry = 0 ∨ retry = 1 := by omega
  rcases either with rfl | rfl
  · exact ⟨by decide, by decide⟩
  · exact ⟨by decide, by decide⟩

/-- Both workers wait for a job after the queue is empty. -/
theorem two_jobs_delivered :
    ∃ trace pool,
      exec (step true RetryPolicy.defaultPolicy) trace (start 2 3 none) =
          some pool ∧
        Settled true RetryPolicy.defaultPolicy pool ∧
          pool.accepted.length = 2 ∧ trace.countP isOwn = 11 ∧
            11 ≤ jobCost RetryPolicy.defaultPolicy * 2 + 2 * 2 ∧
              ∀ ticket, ticket < 2 →
                ∃ outcome, (ticket, outcome) ∈ pool.counted := by
  let trace : List Action :=
    [.send plainJob, .send plainJob, .work 0, .work 0, .work 1, .work 1,
      .answer 0 (.status 404), .work 0, .answer 1 (.status 200), .work 1,
      .work 0, .work 1, .work 0]
  obtain ⟨pool, executed⟩ : ∃ pool,
      exec (step true RetryPolicy.defaultPolicy) trace (start 2 3 none) =
        some pool :=
    ⟨_, rfl⟩
  have ⟨bounded, _, complete⟩ := deliveries_come_to_end (run_of_exec executed)
  have settled : Settled true RetryPolicy.defaultPolicy pool := by
    cases executed
    intro action own
    cases action with
    | work worker => rcases worker with _ | _ | other <;> rfl
    | answer worker response => rcases worker with _ | _ | other <;> rfl
    | _ => cases own
  have length : pool.accepted.length = 2 := by
    cases executed
    rfl
  have counted : trace.countP isOwn = 11 := by decide
  rw [length, counted] at bounded
  refine ⟨trace, pool, executed, settled, length, counted, bounded, ?_⟩
  have all := complete settled (by decide) defaultPolicy_fits
  rw [length] at all
  exact all

end WorkerPool

end A2AShim
