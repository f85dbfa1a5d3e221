import A2AShim.Serve.PushFailures

/-!
# The waits between delivery attempts

`deliver` waits `backoff_base_secs * backoff_factor.pow(attempt - 1)` seconds
before it tries again, in `u64` arithmetic.  A build with overflow checks
panics where that overflows, and any other build wraps around.
-/

namespace A2AShim

structure RetryPolicy where
  maxAttempts : UInt64
  backoffBaseSecs : UInt64
  backoffFactor : UInt64
  deriving DecidableEq, Repr

inductive DeliveryError where
  | permanentFailure (status : Nat)
  | transient (reason : String)
  deriving DecidableEq, Repr

/-- How a delivery stands after the results of its attempts so far. -/
inductive DeliveryEnd where
  | returned (outcome : DeliveryOutcome)
  | panicked
  | retrying
  deriving DecidableEq, Repr

structure Delivery where
  waits : List UInt64
  ending : DeliveryEnd
  deriving DecidableEq, Repr

namespace RetryPolicy

/-- A result of `u64` arithmetic; `checks` says whether the build has overflow
checks. -/
def asU64 (checks : Bool) (exact : Nat) : Option UInt64 :=
  if checks && 2 ^ 64 ≤ exact then none else some (UInt64.ofNat exact)

/-- `as u32`. -/
def asU32 (number : Nat) : Nat :=
  number % 2 ^ 32

def waitSecs (checks : Bool) (policy : RetryPolicy) (attempt : Nat) :
    Option UInt64 := do
  let power ←
    asU64 checks (policy.backoffFactor.toNat ^ asU32 (attempt - 1))
  asU64 checks (policy.backoffBaseSecs.toNat * power.toNat)

/-- The loop of `deliver`, from the attempt with this number on. -/
def deliverFrom (checks : Bool) (policy : RetryPolicy) (attempt : Nat) :
    List (Except DeliveryError Unit) → Delivery
  | [] => ⟨[], .retrying⟩
  | .ok () :: _ => ⟨[], .returned .success⟩
  | .error (.permanentFailure _) :: _ => ⟨[], .returned .permanentFailure⟩
  | .error (.transient _) :: rest =>
      if policy.maxAttempts.toNat ≤ attempt then
        ⟨[], .returned .dropped⟩
      else
        match waitSecs checks policy attempt with
        | none => ⟨[], .panicked⟩
        | some wait =>
            let later := deliverFrom checks policy (attempt + 1) rest
            { later with waits := wait :: later.waits }

def deliver (checks : Bool) (policy : RetryPolicy)
    (results : List (Except DeliveryError Unit)) : Delivery :=
  deliverFrom checks policy 1 results

/-! ## The schedule -/

def isTransient : Except DeliveryError Unit → Bool
  | .error (.transient _) => true
  | _ => false

/-- How many attempts are followed by another one, from `attempt` on. -/
def retriesFrom (policy : RetryPolicy) (attempt : Nat)
    (results : List (Except DeliveryError Unit)) : Nat :=
  min (results.takeWhile isTransient).length
    (policy.maxAttempts.toNat - attempt)

/-- How many attempts of a delivery are followed by another one. -/
def retries (policy : RetryPolicy)
    (results : List (Except DeliveryError Unit)) : Nat :=
  policy.retriesFrom 1 results

/-- In every build, no arithmetic overflows and no exponent is truncated; each
wait is the product that is meant, and none is shorter than the one before. -/
structure ScheduleExact (policy : RetryPolicy)
    (results : List (Except DeliveryError Unit)) : Prop where
  runs : ∀ checks, (deliver checks policy results).ending ≠ .panicked
  exponent : ∀ checks retry,
    retry < (deliver checks policy results).waits.length →
      asU32 retry = retry
  exact : ∀ checks retry wait,
    (deliver checks policy results).waits[retry]? = some wait →
      wait.toNat =
        policy.backoffBaseSecs.toNat * policy.backoffFactor.toNat ^ retry
  growing : 1 ≤ policy.backoffFactor.toNat → ∀ checks,
    (deliver checks policy results).waits.Pairwise (· ≤ ·)

/-- The numbers that occur before this retry are of 64 bits. -/
def Fits (policy : RetryPolicy) (retry : Nat) : Prop :=
  policy.backoffFactor.toNat ^ retry < 2 ^ 64 ∧
    policy.backoffBaseSecs.toNat * policy.backoffFactor.toNat ^ retry < 2 ^ 64

variable {checks : Bool} {policy : RetryPolicy} {attempt retry : Nat}
variable {results : List (Except DeliveryError Unit)}

theorem asU64_of_lt {exact : Nat} (fits : exact < 2 ^ 64) :
    asU64 checks exact = some (UInt64.ofNat exact) := by
  unfold asU64
  rw [if_neg]
  rw [Bool.and_eq_true, decide_eq_true_eq]
  omega

theorem lt_of_asU64 {exact : Nat} {number : UInt64}
    (computed : asU64 true exact = some number) : exact < 2 ^ 64 := by
  unfold asU64 at computed
  split at computed
  · cases computed
  · rename_i fits
    rw [Bool.true_and, decide_eq_true_eq] at fits
    omega

theorem waitSecs_of_asU32 (fits : policy.Fits (asU32 retry)) :
    waitSecs checks policy (retry + 1) =
      some (UInt64.ofNat
        (policy.backoffBaseSecs.toNat *
          policy.backoffFactor.toNat ^ asU32 retry)) := by
  have power :
      (UInt64.ofNat (policy.backoffFactor.toNat ^ asU32 retry)).toNat =
        policy.backoffFactor.toNat ^ asU32 retry := by
    rw [UInt64.toNat_ofNat', Nat.mod_eq_of_lt fits.1]
  rw [waitSecs, Nat.add_sub_cancel, asU64_of_lt fits.1]
  simp only [Option.bind_eq_bind, Option.bind_some, power]
  exact asU64_of_lt fits.2

theorem waitSecs_of_fits
    (small : retry < 2 ^ 32) (fits : policy.Fits retry) :
    waitSecs checks policy (retry + 1) =
      some (UInt64.ofNat
        (policy.backoffBaseSecs.toNat *
          policy.backoffFactor.toNat ^ retry)) := by
  have exponent : asU32 retry = retry := Nat.mod_eq_of_lt small
  have computed : waitSecs checks policy (retry + 1) =
      some (UInt64.ofNat
        (policy.backoffBaseSecs.toNat *
          policy.backoffFactor.toNat ^ asU32 retry)) :=
    waitSecs_of_asU32 (by rw [exponent]; exact fits)
  rw [exponent] at computed
  exact computed

theorem fits_of_waitSecs
    {wait : UInt64} (exponent : asU32 retry = retry)
    (computed : waitSecs true policy (retry + 1) = some wait) :
    policy.Fits retry := by
  rw [waitSecs, Nat.add_sub_cancel, exponent] at computed
  obtain ⟨power, isPower, isWait⟩ := Option.bind_eq_some_iff.mp computed
  have fits := lt_of_asU64 isPower
  rw [asU64_of_lt fits, Option.some.injEq] at isPower
  have exact := lt_of_asU64 isWait
  rw [← isPower, UInt64.toNat_ofNat', Nat.mod_eq_of_lt fits] at exact
  exact ⟨fits, exact⟩

theorem fits_of_flat (flat : policy.backoffFactor.toNat ≤ 1) (retry : Nat) :
    policy.Fits retry := by
  have baseFits := policy.backoffBaseSecs.toNat_lt
  have power : policy.backoffFactor.toNat ^ retry ≤ 1 := by
    have raised := Nat.pow_le_pow_left flat retry
    rw [Nat.one_pow] at raised
    exact raised
  have product := Nat.mul_le_mul_left policy.backoffBaseSecs.toNat power
  rw [Nat.mul_one] at product
  exact ⟨by omega, by omega⟩

/-- The numbers grow, so the last ones decide. -/
theorem fits_below_iff (count : Nat) :
    (∀ retry, retry < count → policy.Fits retry) ↔
      policy.backoffFactor.toNat ≤ 1 ∨
        max policy.backoffBaseSecs.toNat 1 *
          policy.backoffFactor.toNat ^ (count - 1) < 2 ^ 64 := by
  constructor
  · intro fits
    cases count with
    | zero =>
        have baseFits := policy.backoffBaseSecs.toNat_lt
        right
        rw [Nat.zero_sub, Nat.pow_zero, Nat.mul_one]
        omega
    | succ last =>
        right
        obtain ⟨power, product⟩ := fits last (Nat.lt_succ_self last)
        rw [Nat.add_sub_cancel]
        rcases Nat.le_total policy.backoffBaseSecs.toNat 1 with low | high
        · rw [Nat.max_eq_right low, Nat.one_mul]
          exact power
        · rw [Nat.max_eq_left high]
          exact product
  · intro bounded retry below
    by_cases flat : policy.backoffFactor.toNat ≤ 1
    · exact fits_of_flat flat retry
    · have bound := bounded.resolve_left flat
      have power := Nat.pow_le_pow_right
        (n := policy.backoffFactor.toNat) (by omega)
        (Nat.le_sub_one_of_lt below)
      have alone := Nat.mul_le_mul
        (Nat.le_max_right policy.backoffBaseSecs.toNat 1) power
      have product := Nat.mul_le_mul
        (Nat.le_max_left policy.backoffBaseSecs.toNat 1) power
      rw [Nat.one_mul] at alone
      exact ⟨by omega, by omega⟩

/-! ## The waits of a run -/

theorem retriesFrom_transient {reason : String}
    {rest : List (Except DeliveryError Unit)}
    (open_ : attempt < policy.maxAttempts.toNat) :
    policy.retriesFrom attempt (.error (.transient reason) :: rest) =
      policy.retriesFrom (attempt + 1) rest + 1 := by
  unfold retriesFrom
  rw [List.takeWhile_cons_of_pos rfl, List.length_cons]
  omega

/-- A delivery that does not panic has computed all its waits. -/
theorem waits_of_runs
    (runs : (deliverFrom checks policy attempt results).ending ≠ .panicked) :
    (deliverFrom checks policy attempt results).waits.map some =
      (List.range (policy.retriesFrom attempt results)).map fun retry =>
        waitSecs checks policy (attempt + retry) := by
  induction results generalizing attempt with
  | nil => simp [deliverFrom, retriesFrom]
  | cons result rest inductionHypothesis =>
      rcases result with (⟨status⟩ | ⟨reason⟩) | ⟨⟩
      · simp [deliverFrom, retriesFrom, isTransient]
      · by_cases last : policy.maxAttempts.toNat ≤ attempt
        · have none : policy.retriesFrom attempt
              (.error (.transient reason) :: rest) = 0 := by
            unfold retriesFrom
            omega
          simp [deliverFrom, last, none]
        · rw [deliverFrom, if_neg last] at runs ⊢
          rw [retriesFrom_transient (by omega), List.range_succ_eq_map,
            List.map_cons, List.map_map, Nat.add_zero]
          cases computed : waitSecs checks policy attempt with
          | none =>
              rw [computed] at runs
              exact absurd rfl runs
          | some wait =>
              simp only [computed] at runs ⊢
              rw [List.map_cons, inductionHypothesis runs]
              congr 1
              apply List.map_congr_left
              intro retry _
              simp only [Function.comp_apply, Nat.succ_eq_add_one]
              congr 1
              omega
      · simp [deliverFrom, retriesFrom, isTransient]

theorem runs_of_waits
    (computes : ∀ retry, retry < policy.retriesFrom attempt results →
      waitSecs checks policy (attempt + retry) ≠ none) :
    (deliverFrom checks policy attempt results).ending ≠ .panicked := by
  induction results generalizing attempt with
  | nil => exact nofun
  | cons result rest inductionHypothesis =>
      rcases result with (⟨status⟩ | ⟨reason⟩) | ⟨⟩
      · exact nofun
      · by_cases last : policy.maxAttempts.toNat ≤ attempt
        · rw [deliverFrom, if_pos last]
          exact nofun
        · have count := @retriesFrom_transient policy attempt reason rest
            (by omega)
          rw [count] at computes
          rw [deliverFrom, if_neg last]
          cases computed : waitSecs checks policy attempt with
          | none => exact absurd computed (computes 0 (Nat.succ_pos _))
          | some wait =>
              apply inductionHypothesis
              intro retry below
              have shifted : attempt + 1 + retry = attempt + (retry + 1) := by
                omega
              rw [shifted]
              exact computes (retry + 1) (by omega)
      · exact nofun

theorem length_of_runs
    (runs : (deliver checks policy results).ending ≠ .panicked) :
    (deliver checks policy results).waits.length =
      policy.retries results := by
  have whole := congrArg List.length (waits_of_runs runs)
  rw [List.length_map, List.length_map, List.length_range] at whole
  exact whole

theorem waitSecs_of_runs
    {wait : UInt64}
    (runs : (deliver checks policy results).ending ≠ .panicked)
    (found : (deliver checks policy results).waits[retry]? = some wait) :
    waitSecs checks policy (retry + 1) = some wait := by
  have whole := congrArg (fun list => list[retry]?) (waits_of_runs runs)
  obtain ⟨inside, _⟩ := List.getElem?_eq_some_iff.mp found
  have below : retry < policy.retriesFrom 1 results := by
    have length := length_of_runs runs
    rw [length] at inside
    exact inside
  simp only [List.getElem?_map, List.getElem?_range below,
    Option.map_some] at whole
  have same : (deliverFrom checks policy 1 results).waits[retry]? =
      some wait := found
  rw [same, Option.map_some, Option.some.injEq, Nat.add_comm] at whole
  exact whole.symm

/-- An exponent that is truncated is that of an earlier retry. -/
theorem runs_of_fits
    (fits : ∀ retry, retry < policy.retries results → policy.Fits retry)
    (checks : Bool) :
    (deliver checks policy results).ending ≠ .panicked := by
  apply runs_of_waits
  intro retry below
  have earlier : asU32 retry ≤ retry := Nat.mod_le _ _
  rw [Nat.add_comm, waitSecs_of_asU32
    (fits _ (Nat.lt_of_le_of_lt earlier below))]
  exact nofun

/-- With a bound on the retries and their numbers, the schedule is exact. -/
theorem scheduleExact_of_fits
    (few : policy.retries results ≤ 2 ^ 32)
    (fits : ∀ retry, retry < policy.retries results → policy.Fits retry) :
    ScheduleExact policy results := by
  have computes : ∀ checks retry, retry < policy.retries results →
      waitSecs checks policy (retry + 1) =
        some (UInt64.ofNat (policy.backoffBaseSecs.toNat *
          policy.backoffFactor.toNat ^ retry)) :=
    fun checks retry below =>
      waitSecs_of_fits (by omega) (fits retry below)
  have runs : ∀ checks, (deliver checks policy results).ending ≠ .panicked :=
    runs_of_fits fits
  have exact : ∀ checks retry wait,
      (deliver checks policy results).waits[retry]? = some wait →
        wait.toNat = policy.backoffBaseSecs.toNat *
          policy.backoffFactor.toNat ^ retry := by
    intro checks retry wait found
    obtain ⟨inside, _⟩ := List.getElem?_eq_some_iff.mp found
    rw [length_of_runs (runs checks)] at inside
    have computed := waitSecs_of_runs (runs checks) found
    rw [computes checks retry inside, Option.some.injEq] at computed
    rw [← computed, UInt64.toNat_ofNat', Nat.mod_eq_of_lt (fits retry inside).2]
  refine ⟨runs, ?_, exact, ?_⟩
  · intro checks retry inside
    rw [length_of_runs (runs checks)] at inside
    exact Nat.mod_eq_of_lt (by omega)
  · intro positive checks
    rw [List.pairwise_iff_getElem]
    intro earlier later insideEarlier insideLater order
    have before := exact checks earlier _
      (List.getElem?_eq_getElem insideEarlier)
    have after := exact checks later _ (List.getElem?_eq_getElem insideLater)
    rw [UInt64.le_iff_toNat_le, before, after]
    exact Nat.mul_le_mul_left _
      (Nat.pow_le_pow_right positive (Nat.le_of_lt order))

/-- The schedule is exact exactly when there are at most 2^32 retries, and the
numbers before the last of them are of 64 bits. -/
theorem schedule_exact_iff
    (policy : RetryPolicy) (results : List (Except DeliveryError Unit)) :
    ScheduleExact policy results ↔
      policy.retries results ≤ 2 ^ 32 ∧
        (policy.backoffFactor.toNat ≤ 1 ∨
          max policy.backoffBaseSecs.toNat 1 *
            policy.backoffFactor.toNat ^ (policy.retries results - 1) <
              2 ^ 64) := by
  rw [← fits_below_iff]
  constructor
  · intro schedule
    have runs := schedule.runs true
    have exponents : ∀ retry, retry < policy.retries results →
        asU32 retry = retry := by
      intro retry below
      rw [← length_of_runs runs] at below
      exact schedule.exponent true retry below
    refine ⟨?_, ?_⟩
    · by_contra many
      have truncated := exponents (2 ^ 32) (by omega)
      rw [asU32, Nat.mod_self] at truncated
      exact absurd truncated (by decide)
    · intro retry below
      have inside := below
      rw [← length_of_runs runs] at inside
      exact fits_of_waitSecs (exponents retry below)
        (waitSecs_of_runs runs (List.getElem?_eq_getElem inside))
  · rintro ⟨few, fits⟩
    exact scheduleExact_of_fits few fits

/-- `PushNotificationsConfig::default`. -/
def defaultPolicy : RetryPolicy :=
  { maxAttempts := 3, backoffBaseSecs := 1, backoffFactor := 3 }

/-- With the defaults every schedule is exact. -/
theorem default_schedule_exact (results : List (Except DeliveryError Unit)) :
    ScheduleExact defaultPolicy results := by
  have few : defaultPolicy.retries results ≤ 2 := by
    unfold retries retriesFrom
    exact Nat.min_le_right _ _
  apply scheduleExact_of_fits (by omega)
  intro retry below
  have cases : retry = 0 ∨ retry = 1 := by omega
  rcases cases with rfl | rfl
  · exact ⟨by decide, by decide⟩
  · exact ⟨by decide, by decide⟩

/-- A factor of `2 ^ 32` and four attempts. -/
def steepPolicy (base : UInt64) : RetryPolicy :=
  { maxAttempts := 4, backoffBaseSecs := base, backoffFactor := 4294967296 }

def threeFailures : List (Except DeliveryError Unit) :=
  List.replicate 3 (.error (.transient "HTTP 503"))

/-- The third wait overflows: with overflow checks the worker is lost, even if
it never waits, and without them the wait is nothing. -/
theorem steep_policy_overflows :
    deliver true (steepPolicy 0) threeFailures = ⟨[0, 0], .panicked⟩ ∧
      deliver false (steepPolicy 1) threeFailures =
        ⟨[1, 4294967296, 0], .retrying⟩ ∧
      ¬ ∀ policy results, ScheduleExact policy results := by
  have lost : deliver true (steepPolicy 0) threeFailures =
      ⟨[0, 0], .panicked⟩ := by
    decide +kernel
  refine ⟨lost, by decide +kernel, ?_⟩
  intro exact
  have runs := (exact (steepPolicy 0) threeFailures).runs true
  rw [lost] at runs
  exact runs rfl

end RetryPolicy

end A2AShim
