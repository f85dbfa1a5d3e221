import Mathlib.Order.Monotone.Basic

/-!
# The proleptic Gregorian calendar

A date comes after another by `Date.next`; `daysFromCivil` numbers the dates
from 1970-01-01 on.  Years are counted from March, so that the leap day is the
last one of its year.
-/

namespace Calendar

def isLeap (year : Int) : Bool :=
  decide (year % 4 = 0) &&
    (decide (year % 100 ≠ 0) || decide (year % 400 = 0))

def daysInMonth (year : Int) (month : Nat) : Nat :=
  if month = 2 then
    if isLeap year then 29 else 28
  else if month = 4 ∨ month = 6 ∨ month = 9 ∨ month = 11 then
    30
  else
    31

@[ext]
structure Date where
  year : Int
  month : Nat
  day : Nat
  month_pos : 1 ≤ month
  month_le : month ≤ 12
  day_pos : 1 ≤ day
  day_le : day ≤ daysInMonth year month

theorem daysInMonth_pos (year : Int) (month : Nat) :
    1 ≤ daysInMonth year month := by
  unfold daysInMonth
  split_ifs <;> decide

namespace Date

/-- The day after. -/
def next (date : Date) : Date :=
  if inMonth : date.day < daysInMonth date.year date.month then
    { date with
      day := date.day + 1
      day_pos := Nat.le_add_left 1 date.day
      day_le := inMonth }
  else if inYear : date.month < 12 then
    { year := date.year
      month := date.month + 1
      day := 1
      month_pos := Nat.le_add_left 1 date.month
      month_le := inYear
      day_pos := Nat.le_refl 1
      day_le := daysInMonth_pos _ _ }
  else
    { year := date.year + 1
      month := 1
      day := 1
      month_pos := Nat.le_refl 1
      month_le := by decide
      day_pos := Nat.le_refl 1
      day_le := daysInMonth_pos _ _ }

def epoch : Date :=
  { year := 1970
    month := 1
    day := 1
    month_pos := by decide
    month_le := by decide
    day_pos := by decide
    day_le := by decide }

/-- The date so many days after 1970-01-01. -/
def afterEpoch (days : Nat) : Date :=
  next^[days] epoch

end Date

/-- Days from 1970-01-01 to a date. -/
def daysFromCivil (year : Int) (month day : Nat) : Int :=
  let y := if month ≤ 2 then year - 1 else year
  let era := y / 400
  let yoe := y % 400
  let mp := (month + 9) % 12
  let doy := (153 * mp + 2) / 5 + day - 1
  let doe := 365 * yoe + yoe / 4 - yoe / 100 + doy
  era * 146097 + doe - 719468

def Date.toDays (date : Date) : Int :=
  daysFromCivil date.year date.month date.day

/-! ## Years and months from March on -/

/-- The days of the years before `year`. -/
def yearStart (year : Int) : Int :=
  365 * year + year / 4 - year / 100 + year / 400

/-- The days of the months before `month`; March is month zero. -/
def monthStart (month : Nat) : Nat :=
  (153 * month + 2) / 5

def yearLength (year : Int) : Nat :=
  if isLeap (year + 1) then 366 else 365

theorem isLeap_iff (year : Int) :
    isLeap year = true ↔
      year % 4 = 0 ∧ (year % 100 ≠ 0 ∨ year % 400 = 0) := by
  simp [isLeap]

theorem yearStart_succ (year : Int) :
    yearStart (year + 1) = yearStart year + yearLength year := by
  have leap := isLeap_iff (year + 1)
  unfold yearStart yearLength
  split
  · rename_i isLeapYear
    have divided := leap.mp isLeapYear
    omega
  · rename_i notLeap
    have divided := mt leap.mpr notLeap
    omega

theorem yearStart_lt {first second : Int} (less : first < second) :
    yearStart first + yearLength first ≤ yearStart second := by
  rw [← yearStart_succ]
  unfold yearStart
  omega

theorem yearStart_era (era yoe : Int) :
    yearStart (yoe + era * 400) = era * 146097 + yearStart yoe := by
  unfold yearStart
  omega

/-- The days of a month that begins in the March year `year`. -/
def monthLength (year : Int) (month : Nat) : Nat :=
  if month = 11 then yearLength year - 337
  else monthStart (month + 1) - monthStart month

theorem monthStart_lt (year : Int) {first second : Nat}
    (less : first < second) (inYear : second ≤ 11) :
    monthStart first + monthLength year first ≤ monthStart second := by
  have notLast : first ≠ 11 := by omega
  unfold monthLength
  rw [if_neg notLast]
  unfold monthStart
  omega

theorem monthStart_succ (year : Int) {month : Nat} (inYear : month < 11) :
    monthStart (month + 1) = monthStart month + monthLength year month := by
  have notLast : month ≠ 11 := by omega
  unfold monthLength
  rw [if_neg notLast]
  unfold monthStart
  omega

theorem monthStart_add_le (year : Int) {month : Nat} (inYear : month ≤ 11) :
    monthStart month + monthLength year month ≤ yearLength year := by
  unfold monthLength yearLength monthStart
  split_ifs <;> omega

theorem daysInMonth_eq_monthLength
    (year : Int) {month : Nat} (positive : 1 ≤ month) (inYear : month ≤ 12) :
    daysInMonth year month =
      monthLength (if month ≤ 2 then year - 1 else year)
        ((month + 9) % 12) := by
  by_cases february : month = 2
  · subst february
    have sameYear : year - 1 + 1 = year := by omega
    simp only [daysInMonth, monthLength, yearLength, le_refl, if_true,
      sameYear]
    split_ifs <;> rfl
  · have months : month = 1 ∨ month = 3 ∨ month = 4 ∨ month = 5 ∨
        month = 6 ∨ month = 7 ∨ month = 8 ∨ month = 9 ∨ month = 10 ∨
          month = 11 ∨ month = 12 := by
      omega
    rcases months with rfl | rfl | rfl | rfl | rfl | rfl | rfl | rfl | rfl |
      rfl | rfl
    all_goals rfl

namespace Date

variable {date other : Date}

def marchYear (date : Date) : Int :=
  if date.month ≤ 2 then date.year - 1 else date.year

def marchMonth (date : Date) : Nat :=
  (date.month + 9) % 12

def dayOfYear (date : Date) : Nat :=
  monthStart date.marchMonth + (date.day - 1)

theorem marchMonth_le (date : Date) : date.marchMonth ≤ 11 := by
  unfold marchMonth
  omega

theorem daysInMonth_eq (date : Date) :
    daysInMonth date.year date.month =
      monthLength date.marchYear date.marchMonth :=
  daysInMonth_eq_monthLength date.year date.month_pos date.month_le

theorem day_lt (date : Date) :
    date.day - 1 < monthLength date.marchYear date.marchMonth := by
  have inMonth := date.day_le
  have positive := date.day_pos
  rw [daysInMonth_eq] at inMonth
  omega

theorem dayOfYear_lt (date : Date) :
    date.dayOfYear < yearLength date.marchYear := by
  have inMonth := date.day_lt
  have inYear := monthStart_add_le date.marchYear date.marchMonth_le
  unfold dayOfYear
  omega

theorem toDays_eq (date : Date) :
    date.toDays = yearStart date.marchYear + date.dayOfYear - 719468 := by
  have positive := date.day_pos
  unfold toDays daysFromCivil
  rw [show (if date.month ≤ 2 then date.year - 1 else date.year) =
    date.marchYear from rfl]
  unfold yearStart dayOfYear marchMonth monthStart
  simp only
  omega

theorem toDays_epoch : epoch.toDays = 0 := by
  decide

theorem toDays_lt_of_marchYear (less : date.marchYear < other.marchYear) :
    date.toDays < other.toDays := by
  have apart := yearStart_lt less
  have inside := date.dayOfYear_lt
  rw [toDays_eq, toDays_eq]
  omega

theorem toDays_lt_of_marchMonth (sameYear : date.marchYear = other.marchYear)
    (less : date.marchMonth < other.marchMonth) :
    date.toDays < other.toDays := by
  have apart := monthStart_lt date.marchYear less other.marchMonth_le
  have inside := date.day_lt
  rw [toDays_eq, toDays_eq, sameYear]
  unfold dayOfYear
  omega

/-- No two dates have one number. -/
theorem toDays_injective (same : date.toDays = other.toDays) :
    date = other := by
  have sameYear : date.marchYear = other.marchYear := by
    rcases lt_trichotomy date.marchYear other.marchYear with
      less | equal | greater
    · have before := toDays_lt_of_marchYear less
      omega
    · exact equal
    · have before := toDays_lt_of_marchYear greater
      omega
  have sameMonth : date.marchMonth = other.marchMonth := by
    rcases lt_trichotomy date.marchMonth other.marchMonth with
      less | equal | greater
    · have before := toDays_lt_of_marchMonth sameYear less
      omega
    · exact equal
    · have before := toDays_lt_of_marchMonth sameYear.symm greater
      omega
  have sameDay : date.day = other.day := by
    have positive := date.day_pos
    have otherPositive := other.day_pos
    rw [toDays_eq, toDays_eq, sameYear] at same
    unfold dayOfYear at same
    rw [sameMonth] at same
    omega
  have monthBounds := And.intro date.month_pos date.month_le
  have otherBounds := And.intro other.month_pos other.month_le
  unfold marchMonth at sameMonth
  have isMonth : date.month = other.month := by omega
  unfold marchYear at sameYear
  rw [isMonth] at sameYear
  have isYear : date.year = other.year := by
    split at sameYear <;> omega
  exact Date.ext isYear isMonth sameDay

/-- The first day of a month comes after the last day of the month before. -/
theorem toDays_of_last
    (last : date.day = monthLength date.marchYear date.marchMonth)
    (first : other.day = 1)
    (follows :
      date.marchMonth < 11 ∧ other.marchYear = date.marchYear ∧
          other.marchMonth = date.marchMonth + 1 ∨
        date.marchMonth = 11 ∧ other.marchYear = date.marchYear + 1 ∧
          other.marchMonth = 0) :
    other.toDays = date.toDays + 1 := by
  have positive := date.day_pos
  rw [toDays_eq, toDays_eq]
  unfold dayOfYear
  rw [first]
  rcases follows with ⟨inYear, sameYear, nextMonth⟩ |
    ⟨lastMonth, nextYear, firstMonth⟩
  · rw [sameYear, nextMonth]
    have length := monthStart_succ date.marchYear inYear
    omega
  · have year := yearStart_succ date.marchYear
    rw [lastMonth] at last ⊢
    rw [nextYear, firstMonth]
    simp only [monthLength, if_true] at last
    have startLast : monthStart 11 = 337 := rfl
    have startFirst : monthStart 0 = 0 := rfl
    omega

/-- The numbers go up by one from a day to the next. -/
theorem toDays_next (date : Date) : date.next.toDays = date.toDays + 1 := by
  have sameLength := date.daysInMonth_eq
  have positive := date.day_pos
  have inMonth := date.day_le
  have monthBounds := And.intro date.month_pos date.month_le
  unfold next
  split
  · rename_i inside
    rw [toDays_eq, toDays_eq]
    simp only [marchYear, dayOfYear, marchMonth]
    omega
  · rename_i outside
    have last : date.day = monthLength date.marchYear date.marchMonth := by
      omega
    split
    · rename_i inYear
      refine toDays_of_last last rfl ?_
      simp only [marchYear, marchMonth]
      split_ifs <;> omega
    · rename_i lastMonth
      refine toDays_of_last last rfl (.inl ?_)
      simp only [marchYear, marchMonth]
      split_ifs <;> omega

theorem toDays_afterEpoch (days : Nat) : (afterEpoch days).toDays = days := by
  induction days with
  | zero => exact toDays_epoch
  | succ days inductionHypothesis =>
      rw [afterEpoch, Function.iterate_succ_apply', toDays_next]
      rw [afterEpoch] at inductionHypothesis
      rw [inductionHypothesis]
      rfl

end Date

/-! ## The date of a day -/

def monthOfDay (doy : Nat) : Nat :=
  (5 * doy + 2) / 153

/-- The day is one of its month. -/
theorem monthOfDay_spec {year : Int} {doy : Nat}
    (inside : doy < yearLength year) :
    monthOfDay doy ≤ 11 ∧ monthStart (monthOfDay doy) ≤ doy ∧
      doy < monthStart (monthOfDay doy) +
        monthLength year (monthOfDay doy) := by
  have longest : yearLength year ≤ 366 := by
    unfold yearLength
    split <;> decide
  have inYear : monthOfDay doy ≤ 11 := by
    unfold monthOfDay
    omega
  have starts : monthStart (monthOfDay doy) ≤ doy := by
    unfold monthStart monthOfDay
    omega
  refine ⟨inYear, starts, ?_⟩
  by_cases last : monthOfDay doy = 11
  · have startLast : monthStart 11 = 337 := rfl
    rw [last] at starts ⊢
    simp only [monthLength, if_true]
    omega
  · rw [← monthStart_succ year (by omega)]
    unfold monthStart monthOfDay
    omega

/-- The date of a day of a March year. -/
def Date.ofMarch (year : Int) (doy : Nat) (inside : doy < yearLength year) :
    Date :=
  let mp := monthOfDay doy
  let month := if mp < 10 then mp + 3 else mp - 9
  have spec := monthOfDay_spec inside
  have month_pos : 1 ≤ month := by
    simp only [month, mp]
    split <;> omega
  have month_le : month ≤ 12 := by
    simp only [month, mp]
    split <;> omega
  { year := if month ≤ 2 then year + 1 else year
    month
    day := doy - monthStart mp + 1
    month_pos
    month_le
    day_pos := Nat.le_add_left 1 _
    day_le := by
      rw [daysInMonth_eq_monthLength _ month_pos month_le]
      have sameMonth : (month + 9) % 12 = mp := by
        simp only [month, mp]
        split <;> omega
      have sameYear :
          (if month ≤ 2 then (if month ≤ 2 then year + 1 else year) - 1
            else if month ≤ 2 then year + 1 else year) = year := by
        split <;> omega
      have inMonth : doy - monthStart (monthOfDay doy) + 1 ≤
          monthLength year (monthOfDay doy) := by
        omega
      rw [sameMonth, sameYear]
      exact inMonth }

theorem Date.toDays_ofMarch
    (year : Int) (doy : Nat) (inside : doy < yearLength year) :
    (ofMarch year doy inside).toDays = yearStart year + doy - 719468 := by
  have spec := monthOfDay_spec inside
  have sameYear : (ofMarch year doy inside).marchYear = year := by
    simp only [marchYear, ofMarch]
    split_ifs <;> omega
  have sameMonth :
      (ofMarch year doy inside).marchMonth = monthOfDay doy := by
    simp only [marchMonth, ofMarch]
    split_ifs <;> omega
  have sameDay : (ofMarch year doy inside).dayOfYear = doy := by
    rw [dayOfYear, sameMonth]
    simp only [ofMarch]
    omega
  rw [toDays_eq, sameYear, sameDay]

/-! ## The year of a day in a cycle of 400 years -/

/-- The days before a year of the cycle. -/
def eraStart (yoe : Nat) : Nat :=
  365 * yoe + yoe / 4 - yoe / 100 + yoe / 400

/-- The days that have gone by, but the leap days. -/
def leapless (doe : Nat) : Nat :=
  doe - doe / 1460 + doe / 36524 - doe / 146096

def yearOfEra (doe : Nat) : Nat :=
  leapless doe / 365

theorem leapless_mono : Monotone leapless := by
  apply monotone_nat_of_le_succ
  intro doe
  unfold leapless
  omega

/-- The first and the last day of each year of the cycle. -/
theorem leapless_ends :
    ∀ yoe, yoe < 400 →
      365 * yoe ≤ leapless (eraStart yoe) ∧
        leapless (eraStart (yoe + 1) - 1) < 365 * (yoe + 1) := by
  decide +kernel

theorem yearOfEra_lt {doe : Nat} (inEra : doe < 146097) :
    yearOfEra doe < 400 := by
  have bound : leapless doe ≤ leapless 146096 :=
    leapless_mono (Nat.le_of_lt_succ inEra)
  have last : leapless 146096 = 145999 := rfl
  unfold yearOfEra
  omega

/-- The day is one of its year. -/
theorem yearOfEra_spec {doe : Nat} (inEra : doe < 146097) :
    eraStart (yearOfEra doe) ≤ doe ∧ doe < eraStart (yearOfEra doe + 1) := by
  have inCycle := yearOfEra_lt inEra
  have quotient : 365 * yearOfEra doe ≤ leapless doe ∧
      leapless doe < 365 * (yearOfEra doe + 1) := by
    unfold yearOfEra
    omega
  constructor
  · by_contra early
    have positive : yearOfEra doe ≠ 0 := by
      intro isZero
      rw [isZero] at early
      exact early (Nat.zero_le doe)
    obtain ⟨before, isYear⟩ : ∃ before, yearOfEra doe = before + 1 :=
      ⟨yearOfEra doe - 1, by omega⟩
    rw [isYear] at early quotient inCycle
    have ends := (leapless_ends before (by omega)).2
    have bound : leapless doe ≤ leapless (eraStart (before + 1) - 1) :=
      leapless_mono (by omega)
    omega
  · by_contra late
    by_cases isLast : yearOfEra doe + 1 = 400
    · rw [isLast] at late
      have whole : eraStart 400 = 146097 := rfl
      omega
    · have starts := (leapless_ends (yearOfEra doe + 1) (by omega)).1
      have bound : leapless (eraStart (yearOfEra doe + 1)) ≤ leapless doe :=
        leapless_mono (by omega)
      omega

theorem yearStart_eq_eraStart (yoe : Nat) :
    yearStart yoe = eraStart yoe := by
  unfold yearStart eraStart
  omega

/-! ## Times of the day -/

/-- A second of a day. -/
structure Moment where
  date : Date
  hour : Nat
  minute : Nat
  second : Nat
  hour_lt : hour < 24
  minute_lt : minute < 60
  second_lt : second < 60

/-- The seconds from the beginning of 1970-01-01. -/
def Moment.seconds (moment : Moment) : Int :=
  moment.date.toDays * 86400 + moment.hour * 3600 + moment.minute * 60 +
    moment.second

end Calendar
