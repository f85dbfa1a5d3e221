import A2AShim.Serve.WorkerPool

/-!
# Every job is delivered once

A ticket is waiting, with one worker, or counted.  The requests sent for it
and the responses that came back are as far as its worker is: this goes along
with the ledger, since a step concerns the ticket of its worker only.
-/

namespace A2AShim

namespace WorkerPool

open Machine

variable {checks : Bool} {policy : RetryPolicy}
variable {pool target : WorkerPool}

/-- The requests that were sent for a ticket. -/
def triesOf (pool : WorkerPool) (ticket : Nat) : List Post :=
  (pool.tried.filter fun tried => tried.1 == ticket).map Prod.snd

/-- What the loop of `deliver` makes of the responses for a ticket. -/
def delivery (checks : Bool) (policy : RetryPolicy) (pool : WorkerPool)
    (ticket : Nat) : Delivery :=
  policy.deliver checks ((pool.answers ticket).map PushDelivery.tryOnce)

/-- The ticket is that of the job, and its delivery has come this far. -/
structure Reached (checks : Bool) (policy : RetryPolicy) (pool : WorkerPool)
    (ticket : Nat) (job : DeliveryJob) (tries answers : Nat)
    (ending : DeliveryEnd) : Prop where
  accepted : pool.accepted[ticket]? = some job
  tried : pool.triesOf ticket =
    List.replicate tries (PushDelivery.request job)
  answered : (pool.answers ticket).length = answers
  stands : (delivery checks policy pool ticket).ending = ending
  waited :
    (delivery checks policy pool ticket).waits.length +
        (if ending = .retrying then 0 else 1) = answers

/-- The delivery of a ticket is over, within the number of attempts. -/
def Ended (checks : Bool) (policy : RetryPolicy) (pool : WorkerPool)
    (ticket : Nat) (job : DeliveryJob) (ending : DeliveryEnd) : Prop :=
  ∃ tries, tries ≤ policy.attempts ∧
    Reached checks policy pool ticket job tries tries ending

/-- What the position of a worker says about its ticket. -/
def Fits (checks : Bool) (policy : RetryPolicy) (pool : WorkerPool) :
    WorkerPc → Prop
  | .attempting ticket job number =>
      ∃ before, number = before + 1 ∧ number ≤ policy.attempts ∧
        Reached checks policy pool ticket job number before .retrying
  | .sleeping ticket job number _ =>
      number < policy.attempts ∧
        Reached checks policy pool ticket job number number .retrying
  | .recording ticket job outcome | .deleting ticket job outcome
  | .counting ticket job outcome =>
      Ended checks policy pool ticket job (.returned outcome)
  | .panicked ticket job => Ended checks policy pool ticket job .panicked
  | .locking | .receiving | .stopped => True

/-- Nothing happens to a ticket. -/
structure Keeps (pool target : WorkerPool) (ticket : Nat) : Prop where
  accepted : ∀ job, pool.accepted[ticket]? = some job →
    target.accepted[ticket]? = some job
  tried : target.triesOf ticket = pool.triesOf ticket
  answers : target.answers ticket = pool.answers ticket

theorem Reached.keeps
    {ticket tries answers : Nat} {job : DeliveryJob} {ending : DeliveryEnd}
    (reached : Reached checks policy pool ticket job tries answers ending)
    (keeps : Keeps pool target ticket) :
    Reached checks policy target ticket job tries answers ending where
  accepted := keeps.accepted job reached.accepted
  tried := keeps.tried.trans reached.tried
  answered := by
    rw [keeps.answers]
    exact reached.answered
  stands := by
    rw [delivery, keeps.answers]
    exact reached.stands
  waited := by
    rw [delivery, keeps.answers]
    exact reached.waited

theorem Ended.keeps
    {ticket : Nat} {job : DeliveryJob} {ending : DeliveryEnd}
    (ended : Ended checks policy pool ticket job ending)
    (keeps : Keeps pool target ticket) :
    Ended checks policy target ticket job ending := by
  have ⟨tries, few, reached⟩ := ended
  exact ⟨tries, few, reached.keeps keeps⟩

theorem Fits.keeps
    {pc : WorkerPc} (fits : Fits checks policy pool pc)
    (keeps : ∀ ticket, pc.ticket? = some ticket → Keeps pool target ticket) :
    Fits checks policy target pc := by
  cases pc with
  | attempting ticket job number =>
      have ⟨before, isNumber, few, reached⟩ := fits
      exact ⟨before, isNumber, few, reached.keeps (keeps ticket rfl)⟩
  | sleeping ticket job number seconds =>
      exact ⟨fits.1, fits.2.keeps (keeps ticket rfl)⟩
  | recording ticket job outcome => exact Ended.keeps fits (keeps ticket rfl)
  | deleting ticket job outcome => exact Ended.keeps fits (keeps ticket rfl)
  | counting ticket job outcome => exact Ended.keeps fits (keeps ticket rfl)
  | panicked ticket job => exact Ended.keeps fits (keeps ticket rfl)
  | locking => trivial
  | receiving => trivial
  | stopped => trivial

/-- Where each ticket is, and how far its delivery has come. -/
structure Tracked (checks : Bool) (policy : RetryPolicy)
    (pool : WorkerPool) : Prop where
  fair : pool.ledger.Fair
  waiting : ∀ ticket, pool.taken ≤ ticket →
    pool.triesOf ticket = [] ∧ pool.answers ticket = []
  held : ∀ worker pc, pool.workers worker = some pc →
    Fits checks policy pool pc
  counted : ∀ ticket outcome, (ticket, outcome) ∈ pool.counted →
    ∃ job, Ended checks policy pool ticket job (.returned outcome)

theorem tracked_start (size threshold : Nat) (rows : Option Rows) :
    Tracked checks policy (start size threshold rows) where
  fair := by
    have empty : (start size threshold rows).ledger = .empty := by
      refine Ledger.ext rfl rfl ?_ rfl
      funext worker
      simp only [ledger, start, Ledger.empty]
      split <;> rfl
    rw [empty]
    exact Ledger.fair_empty
  waiting := by
    intro ticket late
    exact ⟨rfl, rfl⟩
  held := by
    intro worker pc found
    simp only [start] at found
    split at found <;> cases found
    trivial
  counted := by
    intro ticket outcome member
    cases member

/-- A step that concerns the ticket of one worker, or the next one, at
most. -/
theorem Tracked.of_moved
    {worker : Nat} {pc : WorkerPc} (concerned : Nat → Prop)
    (tracked : Tracked checks policy pool)
    (step : pool.ledger.Step target.ledger)
    (workers : target.workers = pool.workers.put worker pc)
    (keeps : ∀ ticket, ¬ concerned ticket → Keeps pool target ticket)
    (fits : Fits checks policy target pc)
    (ownTicket : ∀ ticket, concerned ticket → pc.ticket? = some ticket)
    (early : pool.taken ≤ target.taken)
    (counted : ∀ ticket outcome, (ticket, outcome) ∈ target.counted →
      (ticket, outcome) ∈ pool.counted ∨
        ∃ job, Ended checks policy target ticket job (.returned outcome)) :
    Tracked checks policy target := by
  have fair := tracked.fair.step step
  have own : ∀ ticket, concerned ticket →
      target.ledger.holder worker = some ticket := by
    intro ticket isConcerned
    have found : target.workers worker = some pc := by
      rw [workers, Pool.put_self]
    exact (congrArg (·.bind WorkerPc.ticket?) found).trans
      (ownTicket ticket isConcerned)
  refine ⟨fair, ?_, ?_, ?_⟩
  · intro ticket late
    have unconcerned : ¬ concerned ticket := by
      intro isOwn
      have before := (fair.held worker ticket (own ticket isOwn)).1
      exact absurd late (Nat.not_le_of_lt before)
    have kept := keeps ticket unconcerned
    have untouched := tracked.waiting ticket (early.trans late)
    exact ⟨kept.tried.trans untouched.1, kept.answers.trans untouched.2⟩
  · intro other found isFound
    rw [workers] at isFound
    rcases Pool.put_cases isFound with ⟨_, isPc⟩ | ⟨different, before⟩
    · rw [isPc]
      exact fits
    · apply (tracked.held other found before).keeps
      intro ticket isTicket
      apply keeps
      intro isOwn
      have holds : target.ledger.holder other = some ticket := by
        have unchanged : target.workers other = some found := by
          rw [workers, Pool.put_other different]
          exact before
        exact (congrArg (·.bind WorkerPc.ticket?) unchanged).trans isTicket
      exact different (fair.single other worker ticket holds
        (own ticket isOwn))
  · intro ticket outcome member
    rcases counted ticket outcome member with before | ended
    · have ⟨job, ended⟩ := tracked.counted ticket outcome before
      refine ⟨job, ended.keeps (keeps ticket ?_)⟩
      intro isOwn
      have notDone := (fair.held worker ticket (own ticket isOwn)).2
      have isDone : target.ledger.done ticket = true :=
        decide_eq_true (List.mem_map.mpr ⟨(ticket, outcome), member, rfl⟩)
      rw [isDone] at notDone
      contradiction
    · exact ended

/-- A step that concerns no ticket. -/
theorem Tracked.of_unmoved
    (tracked : Tracked checks policy pool)
    (step : pool.ledger.Step target.ledger)
    (workers : target.workers = pool.workers)
    (keeps : ∀ ticket, Keeps pool target ticket)
    (taken : target.taken = pool.taken)
    (counted : target.counted = pool.counted) :
    Tracked checks policy target := by
  refine ⟨tracked.fair.step step, ?_, ?_, ?_⟩
  · intro ticket late
    rw [taken] at late
    have untouched := tracked.waiting ticket late
    exact ⟨(keeps ticket).tried.trans untouched.1,
      (keeps ticket).answers.trans untouched.2⟩
  · intro worker pc found
    rw [workers] at found
    apply (tracked.held worker pc found).keeps
    intro ticket _
    exact keeps ticket
  · intro ticket outcome member
    rw [counted] at member
    have ⟨job, ended⟩ := tracked.counted ticket outcome member
    exact ⟨job, ended.keeps (keeps ticket)⟩

/-! ## The steps of a worker -/

theorem keeps_of_eq
    (accepted : target.accepted = pool.accepted)
    (tried : target.tried = pool.tried)
    (answers : target.answers = pool.answers) (ticket : Nat) :
    Keeps pool target ticket where
  accepted := by
    intro job isJob
    rw [accepted]
    exact isJob
  tried := by
    rw [triesOf, tried]
    rfl
  answers := by
    rw [answers]

theorem triesOf_attempt
    (pool : WorkerPool) (worker ticket other number : Nat)
    (job : DeliveryJob) :
    (pool.attempt worker ticket job number).triesOf other =
      pool.triesOf other ++
        if other = ticket then [PushDelivery.request job] else [] := by
  simp only [triesOf, attempt, List.filter_append, List.map_append]
  by_cases same : other = ticket
  · simp [same]
  · have different : (ticket == other) = false := by
      simpa using Ne.symm same
    simp [same, different]

theorem keeps_attempt
    {worker ticket other : Nat} (number : Nat) (job : DeliveryJob)
    (different : other ≠ ticket) :
    Keeps pool (pool.attempt worker ticket job number) other where
  accepted := fun _ isJob => isJob
  tried := by
    rw [triesOf_attempt, if_neg different, List.append_nil]
  answers := rfl

/-- The next attempt goes out. -/
theorem Reached.attempt
    {worker ticket tries number : Nat} {job : DeliveryJob}
    {answers : Nat} {ending : DeliveryEnd}
    (reached : Reached checks policy pool ticket job tries answers ending) :
    Reached checks policy (pool.attempt worker ticket job number) ticket job
      (tries + 1) answers ending where
  accepted := reached.accepted
  tried := by
    rw [triesOf_attempt, if_pos rfl, reached.tried, List.replicate_succ']
  answered := reached.answered
  stands := reached.stands
  waited := reached.waited

theorem turn_few
    {number : Nat} {result : Except DeliveryError Unit} {seconds : UInt64}
    (isTurn : policy.turn checks number result = .waits seconds) :
    number < policy.attempts :=
  Nat.lt_of_lt_of_le (RetryPolicy.waits_early isTurn) (Nat.le_max_right _ _)

/-- The response to an attempt brings the worker where the loop of `deliver`
goes on. -/
theorem Fits.answered
    {ticket number : Nat} {job : DeliveryJob} {response : Response}
    (fits : Fits checks policy pool (.attempting ticket job number))
    (accepted : target.accepted = pool.accepted)
    (tried : target.tried = pool.tried)
    (answers : target.answers =
      Function.update pool.answers ticket
        (pool.answers ticket ++ [response])) :
    Fits checks policy target
      (.afterTurn ticket job number
        (policy.turn checks number (PushDelivery.tryOnce response))) := by
  have ⟨before, isNumber, few, reached⟩ := fits
  have isAnswers :
      target.answers ticket = pool.answers ticket ++ [response] := by
    rw [answers, Function.update_self]
  have length : (pool.answers ticket).length = before := reached.answered
  have isDelivery : delivery checks policy target ticket =
      policy.deliver checks
        ((pool.answers ticket).map PushDelivery.tryOnce ++
          [PushDelivery.tryOnce response]) := by
    rw [delivery, isAnswers, List.map_append]
    rfl
  have ending : (delivery checks policy target ticket).ending =
      (policy.turn checks number
        (PushDelivery.tryOnce response)).ending := by
    have decided :=
      RetryPolicy.deliver_snoc (PushDelivery.tryOnce response) reached.stands
    rw [List.length_map, length, ← isNumber] at decided
    rw [isDelivery]
    exact decided
  have now : Reached checks policy target ticket job number number
      (policy.turn checks number
        (PushDelivery.tryOnce response)).ending := by
    refine ⟨?_, ?_, ?_, ending, ?_⟩
    · rw [accepted]
      exact reached.accepted
    · rw [triesOf, tried]
      exact reached.tried
    · rw [isAnswers, List.length_append, length, isNumber]
      rfl
    · have waited :=
        RetryPolicy.length_waits_snoc (PushDelivery.tryOnce response)
          reached.stands
      rw [List.length_map, length, ← isNumber] at waited
      rw [← ending, isDelivery]
      exact waited
  cases isTurn : policy.turn checks number (PushDelivery.tryOnce response) with
  | ends outcome =>
      rw [isTurn] at now
      exact ⟨number, few, now⟩
  | waits seconds =>
      rw [isTurn] at now
      exact ⟨turn_few isTurn, now⟩
  | panics =>
      rw [isTurn] at now
      exact ⟨number, few, now⟩

/-- A worker moves, and its ticket stays as it is. -/
theorem Tracked.of_quiet
    {worker : Nat} {pc : WorkerPc}
    (tracked : Tracked checks policy pool)
    (step : pool.ledger.Step target.ledger)
    (workers : target.workers = pool.workers.put worker pc)
    (keeps : ∀ ticket, Keeps pool target ticket)
    (fits : Fits checks policy target pc)
    (taken : target.taken = pool.taken)
    (counted : ∀ ticket outcome, (ticket, outcome) ∈ target.counted →
      (ticket, outcome) ∈ pool.counted ∨
        ∃ job, Ended checks policy target ticket job (.returned outcome)) :
    Tracked checks policy target := by
  refine tracked.of_moved (fun _ => False) step workers
    (fun ticket _ => keeps ticket) fits ?_ (Nat.le_of_eq taken.symm) counted
  intro ticket impossible
  contradiction

/-- The first attempt for the next ticket goes out. -/
theorem Tracked.receives
    {worker : Nat} {job : DeliveryJob}
    (tracked : Tracked checks policy pool)
    (before : pool.workers worker = some .receiving)
    (isNext : pool.accepted[pool.taken]? = some job) :
    Tracked checks policy
      { pool.attempt worker pool.taken job 1 with
        taken := pool.taken + 1
        lock := none } := by
  have taken : Steps checks policy pool true _ := .receives worker job before isNext
  have untouched := tracked.waiting pool.taken (Nat.le_refl _)
  refine tracked.of_moved (fun ticket => ticket = pool.taken)
    (ledger_of_step taken) rfl ?_ ?_ ?_ (Nat.le_succ _)
    (fun _ _ member => .inl member)
  · intro ticket different
    have kept : Keeps pool (pool.attempt worker pool.taken job 1) ticket :=
      keeps_attempt 1 job different
    exact ⟨kept.accepted, kept.tried, kept.answers⟩
  · have none : Reached checks policy pool pool.taken job 0 0 .retrying := by
      refine ⟨isNext, untouched.1, ?_, ?_, ?_⟩
      · rw [untouched.2]
        rfl
      · rw [delivery, untouched.2]
        rfl
      · rw [delivery, untouched.2]
        rfl
    have first : Reached checks policy
        (pool.attempt worker pool.taken job 1) pool.taken job 1 0 .retrying :=
      none.attempt
    refine ⟨0, rfl, Nat.le_max_left _ _, ?_⟩
    exact ⟨first.accepted, first.tried, first.answered, first.stands,
      first.waited⟩
  · intro ticket isNow
    rw [isNow]
    rfl

theorem Tracked.retries
    {worker ticket number : Nat} {job : DeliveryJob} {seconds : UInt64}
    (tracked : Tracked checks policy pool)
    (before :
      pool.workers worker = some (.sleeping ticket job number seconds)) :
    Tracked checks policy (pool.attempt worker ticket job (number + 1)) := by
  have taken : Steps checks policy pool true _ :=
    .retries worker ticket job number seconds before
  have ⟨few, reached⟩ := tracked.held worker _ before
  refine tracked.of_moved (fun other => other = ticket) (ledger_of_step taken)
    rfl ?_ ?_ ?_ (Nat.le_refl _) (fun _ _ member => .inl member)
  · intro other different
    exact keeps_attempt (number + 1) job different
  · exact ⟨number, rfl, few, reached.attempt⟩
  · intro other isTicket
    rw [isTicket]
    rfl

theorem Tracked.answers
    {worker ticket number : Nat} {job : DeliveryJob} (response : Response)
    (tracked : Tracked checks policy pool)
    (before : pool.workers worker = some (.attempting ticket job number)) :
    Tracked checks policy
      { pool.goTo worker
          (.afterTurn ticket job number
            (policy.turn checks number
              (PushDelivery.tryOnce response))) with
        answers :=
          Function.update pool.answers ticket
            (pool.answers ticket ++ [response]) } := by
  have taken : Steps checks policy pool true _ :=
    .answers worker ticket job number response before
  have fits := tracked.held worker _ before
  refine tracked.of_moved (fun other => other = ticket) (ledger_of_step taken)
    rfl ?_ ?_ ?_ (Nat.le_refl _) (fun _ _ member => .inl member)
  · intro other different
    exact ⟨fun _ isJob => isJob, rfl, Function.update_of_ne different _ _⟩
  · exact fits.answered rfl rfl rfl
  · intro other isTicket
    rw [isTicket]
    exact ticket_afterTurn ticket number job _

theorem Tracked.step
    {own : Bool} (tracked : Tracked checks policy pool)
    (taken : Steps checks policy pool own target) :
    Tracked checks policy target := by
  have step := ledger_of_step taken
  cases taken with
  | loses => exact tracked
  | closes =>
      exact tracked.of_unmoved step rfl (keeps_of_eq rfl rfl rfl) rfl rfl
  | configures watched same =>
      exact tracked.of_unmoved step rfl (keeps_of_eq rfl rfl rfl) rfl rfl
  | sends job isOpen =>
      refine tracked.of_unmoved step rfl ?_ rfl rfl
      intro ticket
      refine ⟨?_, rfl, rfl⟩
      intro other isJob
      have early := (List.getElem?_eq_some_iff.mp isJob).1
      exact (List.getElem?_append_left early).trans isJob
  | locks worker before free =>
      exact tracked.of_quiet step rfl (keeps_of_eq rfl rfl rfl) trivial rfl
        (fun _ _ member => .inl member)
  | stops worker before isEmpty closed =>
      exact tracked.of_quiet step rfl (keeps_of_eq rfl rfl rfl) trivial rfl
        (fun _ _ member => .inl member)
  | records worker ticket job outcome before =>
      have keeps : ∀ other,
          Keeps pool (pool.record worker ticket job outcome) other :=
        keeps_of_eq rfl rfl rfl
      have ended : Ended checks policy pool ticket job (.returned outcome) :=
        tracked.held worker _ before
      refine tracked.of_quiet step rfl keeps ?_ rfl
        (fun _ _ member => .inl member)
      split
      · exact ended.keeps (keeps ticket)
      · exact ended.keeps (keeps ticket)
  | deletes worker ticket job outcome watched before deleted =>
      have keeps : ∀ other,
          Keeps pool
            { pool.goTo worker (.counting ticket job outcome) with watched }
            other :=
        keeps_of_eq rfl rfl rfl
      have ended : Ended checks policy pool ticket job (.returned outcome) :=
        tracked.held worker _ before
      exact tracked.of_quiet step rfl keeps (ended.keeps (keeps ticket)) rfl
        (fun _ _ member => .inl member)
  | counts worker ticket job outcome before =>
      have keeps : ∀ other, Keeps pool (pool.count worker ticket outcome)
          other :=
        keeps_of_eq rfl rfl rfl
      have ended : Ended checks policy pool ticket job (.returned outcome) :=
        tracked.held worker _ before
      refine tracked.of_quiet step rfl keeps trivial rfl ?_
      intro other found member
      rcases List.mem_append.mp member with earlier | last
      · exact .inl earlier
      · have isLast := List.mem_singleton.mp last
        cases isLast
        exact .inr ⟨job, ended.keeps (keeps ticket)⟩
  | retries worker ticket job number seconds before =>
      exact tracked.retries before
  | answers worker ticket job number response before =>
      exact tracked.answers response before
  | receives worker job before isNext => exact tracked.receives before isNext

theorem tracked_of_run
    {size threshold : Nat} {rows : Option Rows} {trace : List Action}
    (run : Run (WorkerPool.step checks policy) free
      (start size threshold rows) trace pool) :
    Tracked checks policy pool :=
  run.invariant (Tracked checks policy) (tracked_start size threshold rows)
    fun _ _ _ tracked _ taken => tracked.step (steps_of_step taken)

/-! ## What is counted -/

/-- The metrics count each ticket once, under the label of its outcome. -/
structure Counted (pool : WorkerPool) : Prop where
  once : (pool.counted.map Prod.fst).Nodup
  metrics : ∀ outcome : DeliveryOutcome,
    pool.metrics outcome.label =
      pool.counted.countP fun counted => decide (counted.2 = outcome)

theorem Counted.of_same
    (counted : Counted pool) (same : target.counted = pool.counted)
    (metrics : target.metrics = pool.metrics) : Counted target where
  once := by
    rw [same]
    exact counted.once
  metrics := by
    intro outcome
    rw [same, metrics]
    exact counted.metrics outcome

theorem Counted.count
    {worker ticket : Nat} {outcome : DeliveryOutcome}
    (counted : Counted pool)
    (notDone : pool.ledger.done ticket = false) :
    Counted (pool.count worker ticket outcome) where
  once := by
    have isNew : ticket ∉ pool.counted.map Prod.fst := of_decide_eq_false notDone
    simp only [WorkerPool.count, List.map_append, List.map_cons, List.map_nil]
    exact List.nodup_append_comm.mp (List.nodup_cons.mpr ⟨isNew, counted.once⟩)
  metrics := by
    intro tested
    have before := counted.metrics tested
    simp only [WorkerPool.count, List.countP_append, List.countP_singleton]
    by_cases same : outcome = tested
    · rw [same, Function.update_self, before]
      simp
    · have differs : tested.label ≠ outcome.label := by
        intro sameLabel
        exact same (DeliveryOutcome.label_injective sameLabel).symm
      rw [Function.update_of_ne differs, before]
      simp [same]

theorem Counted.step
    {own : Bool} (counted : Counted pool) (fair : pool.ledger.Fair)
    (taken : Steps checks policy pool own target) : Counted target := by
  cases taken with
  | counts worker ticket job outcome before =>
      apply counted.count
      have holds : pool.ledger.holder worker = some ticket :=
        congrArg (·.bind WorkerPc.ticket?) before
      exact (fair.held worker ticket holds).2
  | _ => exact counted.of_same rfl rfl

theorem counted_of_run
    {size threshold : Nat} {rows : Option Rows} {trace : List Action}
    (run : Run (WorkerPool.step checks policy) free
      (start size threshold rows) trace pool) :
    Counted pool := by
  have both :=
    run.invariant
      (fun reached => Tracked checks policy reached ∧ Counted reached)
      ⟨tracked_start size threshold rows,
        ⟨List.nodup_nil, fun _ => rfl⟩⟩
      (by
        intro source action next holds _ taken
        have steps := steps_of_step taken
        exact ⟨holds.1.step steps, holds.2.step holds.1.fair steps⟩)
  exact both.2

/-- One place for each job, and the same request at each attempt.  A delivery
that has been counted got one response for each request, and the loop of
`deliver` ends with the last of them. -/
structure DeliveredOnce (checks : Bool) (policy : RetryPolicy)
    (pool : WorkerPool) (ticket : Nat) (job : DeliveryJob) : Prop where
  place : ∃! place, pool.ledger.At ticket place
  tried : ∃ tries, tries ≤ policy.attempts ∧
    pool.triesOf ticket = List.replicate tries (PushDelivery.request job)
  ends : ∀ outcome, (ticket, outcome) ∈ pool.counted →
    (delivery checks policy pool ticket).ending = .returned outcome ∧
      (pool.triesOf ticket).length = (pool.answers ticket).length ∧
        (pool.triesOf ticket).length =
          (delivery checks policy pool ticket).waits.length + 1

theorem Tracked.tries
    {ticket : Nat} {job : DeliveryJob} (tracked : Tracked checks policy pool)
    (isJob : pool.accepted[ticket]? = some job) :
    ∃ tries, tries ≤ policy.attempts ∧
      pool.triesOf ticket =
        List.replicate tries (PushDelivery.request job) := by
  have same : ∀ {other : DeliveryJob} {tries answers : Nat}
      {ending : DeliveryEnd},
      Reached checks policy pool ticket other tries answers ending →
        tries ≤ policy.attempts →
          ∃ tries, tries ≤ policy.attempts ∧
            pool.triesOf ticket =
              List.replicate tries (PushDelivery.request job) := by
    intro other tries answers ending reached few
    have isOther := reached.accepted
    rw [isJob] at isOther
    cases isOther
    exact ⟨tries, few, reached.tried⟩
  have early : ticket < pool.ledger.issued :=
    (List.getElem?_eq_some_iff.mp isJob).1
  have ⟨place, isAt, _⟩ := tracked.fair.place early
  cases place with
  | waiting =>
      exact ⟨0, Nat.zero_le _, (tracked.waiting ticket isAt.1).1⟩
  | done =>
      have listed : ticket ∈ pool.counted.map Prod.fst :=
        of_decide_eq_true isAt
      obtain ⟨⟨_, outcome⟩, member, rfl⟩ := List.mem_map.mp listed
      have ⟨other, tries, few, reached⟩ := tracked.counted _ outcome member
      exact same reached few
  | held worker =>
      obtain ⟨pc, found, isTicket⟩ := Option.bind_eq_some_iff.mp isAt
      have fits := tracked.held worker pc found
      cases pc with
      | attempting held other number =>
          cases isTicket
          have ⟨before, _, few, reached⟩ := fits
          exact same reached few
      | sleeping held other number seconds =>
          cases isTicket
          exact same fits.2 (Nat.le_of_lt fits.1)
      | recording held other outcome | deleting held other outcome
      | counting held other outcome | panicked held other =>
          cases isTicket
          have ⟨tries, few, reached⟩ := fits
          exact same reached few
      | locking | receiving | stopped => cases isTicket

/-- Whatever the workers, the webhooks and the requests for configurations do
in between, each job of the queue is delivered once. -/
theorem accepted_jobs_delivered_once
    {size threshold : Nat} {rows : Option Rows} {trace : List Action}
    (run : Run (WorkerPool.step checks policy) free
      (start size threshold rows) trace pool) :
    (∀ ticket job, pool.accepted[ticket]? = some job →
        DeliveredOnce checks policy pool ticket job) ∧
      (pool.counted.map Prod.fst).Nodup ∧
        ∀ outcome : DeliveryOutcome,
          pool.metrics outcome.label =
            pool.counted.countP
              fun counted => decide (counted.2 = outcome) := by
  have tracked := tracked_of_run run
  have counted := counted_of_run run
  refine ⟨?_, counted.once, counted.metrics⟩
  intro ticket job isJob
  refine ⟨?_, tracked.tries isJob, ?_⟩
  · exact tracked.fair.place (List.getElem?_eq_some_iff.mp isJob).1
  · intro outcome member
    have ⟨other, tries, few, reached⟩ := tracked.counted ticket outcome member
    have length : (pool.triesOf ticket).length = tries := by
      rw [reached.tried, List.length_replicate]
    have waited := reached.waited
    rw [if_neg (by simp)] at waited
    exact ⟨reached.stands, length.trans reached.answered.symm,
      length.trans waited.symm⟩

def plainJob : DeliveryJob :=
  { config :=
      { configId := "c"
        taskId := "t"
        url := "http://hook"
        token := some "secret"
        authScheme := none
        authCredentials := none
        tenant := none }
    payload := .null }

/-- The first response is an error of the server, the second one a success. -/
theorem retried_job_delivered :
    ∃ trace pool,
      exec (step true RetryPolicy.defaultPolicy) trace (start 2 3 none) =
          some pool ∧
        pool.accepted[0]? = some plainJob ∧
          DeliveredOnce true RetryPolicy.defaultPolicy pool 0 plainJob ∧
            (pool.triesOf 0).length = 2 ∧
              (0, .success) ∈ pool.counted := by
  let trace : List Action :=
    [.send plainJob, .work 0, .work 0, .answer 0 (.status 503), .work 0,
      .answer 0 (.status 200), .work 0, .work 0]
  obtain ⟨pool, executed⟩ : ∃ pool,
      exec (step true RetryPolicy.defaultPolicy) trace (start 2 3 none) =
        some pool :=
    ⟨_, rfl⟩
  have delivered := accepted_jobs_delivered_once (run_of_exec executed)
  have isJob : pool.accepted[0]? = some plainJob := by
    cases executed
    rfl
  have tries : (pool.triesOf 0).length = 2 := by
    cases executed
    rfl
  have counted : (0, .success) ∈ pool.counted := by
    cases executed
    exact List.mem_singleton.mpr rfl
  exact ⟨trace, pool, executed, isJob, delivered.1 0 plainJob isJob, tries,
    counted⟩

end WorkerPool

end A2AShim
