import Mathlib.Algebra.Order.Ring.Int
import A2AShim.Lib.Calendar
import A2AShim.Serve.PushDelivery

/-!
# The timestamps of push notifications

`civil_from_days` gives the date of each day from 1970-01-01 on, and none of
its operations leaves the range of its type.
-/

namespace A2AShim

namespace PushDelivery

open Calendar

/-! ## Operations in range -/

def asI64 (value : Int) : Option Int :=
  if -2 ^ 63 ≤ value ∧ value < 2 ^ 63 then some value else none

/-- `as u64`, where the number stays the same. -/
def asU64 (value : Int) : Option Nat :=
  if 0 ≤ value ∧ value < 2 ^ 64 then some value.toNat else none

/-- `as u8`, where the number stays the same. -/
def asU8 (value : Nat) : Option Nat :=
  if value < 2 ^ 8 then some value else none

def addU64 (left right : Nat) : Option Nat :=
  if left + right < 2 ^ 64 then some (left + right) else none

def subU64 (left right : Nat) : Option Nat :=
  if right ≤ left then some (left - right) else none

def mulU64 (left right : Nat) : Option Nat :=
  if left * right < 2 ^ 64 then some (left * right) else none

def eraChecked (z : Int) : Option Int := do
  let numerator ← if 0 ≤ z then some z else asI64 (z - 146096)
  return numerator.tdiv 146097

def yearOfEraChecked (doe : Nat) : Option Nat := do
  let noFours ← subU64 doe (doe / 1460)
  let noCenturies ← addU64 noFours (doe / 36524)
  let noEras ← subU64 noCenturies (doe / 146096)
  return noEras / 365

def dayOfYearChecked (doe yoe : Nat) : Option Nat := do
  let yearDays ← mulU64 365 yoe
  let withFours ← addU64 yearDays (yoe / 4)
  let dayOne ← subU64 withFours (yoe / 100)
  subU64 doe dayOne

def monthChecked (mp : Nat) : Option Nat := do
  let month ← if mp < 10 then addU64 mp 3 else subU64 mp 9
  asU8 month

def dayChecked (doy mp : Nat) : Option Nat := do
  let scaled ← mulU64 153 mp
  let shifted ← addU64 scaled 2
  let before ← subU64 doy (shifted / 5)
  let day ← addU64 before 1
  asU8 day

def yearChecked (y : Int) (m : Nat) : Option Int :=
  if m ≤ 2 then asI64 (y + 1) else some y

/-- `civil_from_days`, or nothing if an operation leaves its range. -/
def civilFromDaysChecked (days : Int) : Option (Int × Nat × Nat) := do
  let z ← asI64 (days + 719468)
  let era ← eraChecked z
  let eraDays ← asI64 (era * 146097)
  let rest ← asI64 (z - eraDays)
  let doe ← asU64 rest
  let yoe ← yearOfEraChecked doe
  let eraYears ← asI64 (era * 400)
  let y ← asI64 (yoe + eraYears)
  let doy ← dayOfYearChecked doe yoe
  let scaled ← mulU64 5 doy
  let shifted ← addU64 scaled 2
  let mp := shifted / 153
  let d ← dayChecked doy mp
  let m ← monthChecked mp
  let year ← yearChecked y m
  return (year, m, d)

/-! ## The date of a day count -/

def civil (date : Date) : Int × Nat × Nat :=
  (date.year, date.month, date.day)

/-- Days within their cycle of 400 years. -/
def dayOfEra (days : Int) : Nat :=
  ((days + 719468) % 146097).toNat

theorem dayOfEra_lt (days : Int) : dayOfEra days < 146097 := by
  unfold dayOfEra
  omega

theorem era_eq (z : Int) :
    (if 0 ≤ z then z else z - 146096).tdiv 146097 = z / 146097 := by
  split
  · rename_i nonneg
    exact Int.tdiv_eq_ediv_of_nonneg nonneg
  · rename_i negative
    have flipped : z - 146096 = -(146096 - z) := by omega
    rw [flipped, Int.neg_tdiv, Int.tdiv_eq_ediv_of_nonneg (by omega)]
    omega

/-- The March year of a day. -/
def marchYearOf (days : Int) : Int :=
  yearOfEra (dayOfEra days) + (days + 719468) / 146097 * 400

def dayOfYearOf (days : Int) : Nat :=
  dayOfEra days - eraStart (yearOfEra (dayOfEra days))

theorem dayOfYearOf_lt (days : Int) :
    dayOfYearOf days < yearLength (marchYearOf days) := by
  have inYear := yearOfEra_spec (dayOfEra_lt days)
  have length := yearStart_succ (marchYearOf days)
  have following : marchYearOf days + 1 =
      ((yearOfEra (dayOfEra days) + 1 : Nat) : Int) +
        (days + 719468) / 146097 * 400 := by
    unfold marchYearOf
    omega
  rw [following, yearStart_era, yearStart_eq_eraStart, marchYearOf,
    yearStart_era, yearStart_eq_eraStart] at length
  unfold dayOfYearOf marchYearOf
  omega

/-- The date of a day. -/
def dateOf (days : Int) : Date :=
  .ofMarch (marchYearOf days) (dayOfYearOf days) (dayOfYearOf_lt days)

theorem toDays_dateOf (days : Int) : (dateOf days).toDays = days := by
  have inYear := yearOfEra_spec (dayOfEra_lt days)
  have inEra : (dayOfEra days : Int) = (days + 719468) % 146097 := by
    unfold dayOfEra
    omega
  rw [dateOf, Date.toDays_ofMarch, marchYearOf, yearStart_era,
    yearStart_eq_eraStart]
  unfold dayOfYearOf
  omega

theorem eraStart_eq {yoe : Nat} (inCycle : yoe < 400) :
    365 * yoe + yoe / 4 - yoe / 100 = eraStart yoe := by
  unfold eraStart
  omega

/-- `civil_from_days` gives the date of the day. -/
theorem civilFromDays_eq (days : Int) :
    civilFromDays days = civil (dateOf days) := by
  have inCycle := yearOfEra_lt (dayOfEra_lt days)
  have isDay : (days + 719468 - (days + 719468) / 146097 * 146097).toNat =
      dayOfEra days := by
    unfold dayOfEra
    omega
  simp only [civilFromDays]
  rw [era_eq, isDay]
  have isYear : (dayOfEra days - dayOfEra days / 1460 +
      dayOfEra days / 36524 - dayOfEra days / 146096) / 365 =
        yearOfEra (dayOfEra days) := rfl
  rw [isYear, eraStart_eq inCycle]
  rfl

/-! ## The operations stay in range -/

theorem asI64_eq {value : Int} (low : -2 ^ 63 ≤ value)
    (high : value < 2 ^ 63) : asI64 value = some value :=
  if_pos ⟨low, high⟩

theorem asU64_eq {value : Int} (low : 0 ≤ value) (high : value < 2 ^ 64) :
    asU64 value = some value.toNat :=
  if_pos ⟨low, high⟩

theorem asU8_eq {value : Nat} (high : value < 2 ^ 8) :
    asU8 value = some value :=
  if_pos high

theorem addU64_eq {left right : Nat} (high : left + right < 2 ^ 64) :
    addU64 left right = some (left + right) :=
  if_pos high

theorem subU64_eq {left right : Nat} (low : right ≤ left) :
    subU64 left right = some (left - right) :=
  if_pos low

theorem mulU64_eq {left right : Nat} (high : left * right < 2 ^ 64) :
    mulU64 left right = some (left * right) :=
  if_pos high

theorem yearOfEraChecked_eq {doe : Nat} (inEra : doe < 146097) :
    yearOfEraChecked doe = some (yearOfEra doe) := by
  have fours : doe / 1460 ≤ doe := Nat.div_le_self doe 1460
  have centuries : doe - doe / 1460 + doe / 36524 < 2 ^ 64 := by omega
  have eras : doe / 146096 ≤ doe - doe / 1460 + doe / 36524 := by omega
  simp only [yearOfEraChecked, subU64_eq fours, addU64_eq centuries,
    subU64_eq eras, Option.bind_eq_bind, Option.bind_some, Option.pure_def]
  rfl

theorem dayOfYearChecked_eq {doe : Nat} (inEra : doe < 146097) :
    dayOfYearChecked doe (yearOfEra doe) =
      some (doe - eraStart (yearOfEra doe)) := by
  have inCycle := yearOfEra_lt inEra
  have begun := (yearOfEra_spec inEra).1
  generalize yearOfEra doe = yoe at inCycle begun
  have yearDays : 365 * yoe < 2 ^ 64 := by omega
  have withFours : 365 * yoe + yoe / 4 < 2 ^ 64 := by omega
  have dayOne : yoe / 100 ≤ 365 * yoe + yoe / 4 := by omega
  simp only [dayOfYearChecked, mulU64_eq yearDays, addU64_eq withFours,
    subU64_eq dayOne, Option.bind_eq_bind, Option.bind_some]
  rw [eraStart_eq inCycle, subU64_eq begun]

theorem monthChecked_eq {mp : Nat} (inYear : mp ≤ 11) :
    monthChecked mp = some (if mp < 10 then mp + 3 else mp - 9) := by
  by_cases early : mp < 10
  · have month : mp + 3 < 2 ^ 64 := by omega
    have byte : mp + 3 < 2 ^ 8 := by omega
    simp only [monthChecked, if_pos early, addU64_eq month,
      Option.bind_eq_bind, Option.bind_some, asU8_eq byte]
  · have late : 9 ≤ mp := by omega
    have byte : mp - 9 < 2 ^ 8 := by omega
    simp only [monthChecked, if_neg early, subU64_eq late,
      Option.bind_eq_bind, Option.bind_some, asU8_eq byte]

theorem dayChecked_eq {doy : Nat} (inYear : doy < 366) :
    dayChecked doy (monthOfDay doy) =
      some (doy - monthStart (monthOfDay doy) + 1) := by
  have scaled : 153 * monthOfDay doy < 2 ^ 64 := by
    unfold monthOfDay
    omega
  have shifted : 153 * monthOfDay doy + 2 < 2 ^ 64 := by
    unfold monthOfDay
    omega
  have begun : (153 * monthOfDay doy + 2) / 5 ≤ doy := by
    unfold monthOfDay
    omega
  have day : doy - (153 * monthOfDay doy + 2) / 5 + 1 < 2 ^ 64 := by omega
  have byte : doy - (153 * monthOfDay doy + 2) / 5 + 1 < 2 ^ 8 := by
    unfold monthOfDay
    omega
  simp only [dayChecked, mulU64_eq scaled, addU64_eq shifted,
    subU64_eq begun, addU64_eq day, asU8_eq byte, Option.bind_eq_bind,
    Option.bind_some]
  rfl

theorem bind_eq_some
    {α β : Type} {first : Option α} {found : α} {following : α → Option β}
    {result : β} (isFound : first = some found)
    (follows : following found = some result) :
    (first >>= following) = some result := by
  rw [isFound]
  exact follows

/-- Every operation stays in range. -/
theorem civilFromDaysChecked_eq {days : Int} (nonneg : 0 ≤ days)
    (bound : days < 2 ^ 62) :
    civilFromDaysChecked days = some (civilFromDays days) := by
  have inEra := dayOfEra_lt days
  have inCycle := yearOfEra_lt inEra
  have inYear : dayOfYearOf days < 366 := by
    have inside := dayOfYearOf_lt days
    unfold yearLength at inside
    split at inside <;> omega
  have z : asI64 (days + 719468) = some (days + 719468) :=
    asI64_eq (by omega) (by omega)
  have era : eraChecked (days + 719468) =
      some ((days + 719468) / 146097) := by
    have positive : 0 ≤ days + 719468 := by omega
    rw [eraChecked, if_pos positive]
    exact congrArg some (Int.tdiv_eq_ediv_of_nonneg positive)
  have eraDays : asI64 ((days + 719468) / 146097 * 146097) =
      some ((days + 719468) / 146097 * 146097) :=
    asI64_eq (by omega) (by omega)
  have rest :
      asI64 (days + 719468 - (days + 719468) / 146097 * 146097) =
        some (dayOfEra days : Int) := by
    rw [asI64_eq (by omega) (by omega)]
    unfold dayOfEra
    congr 1
    omega
  have doe : asU64 (dayOfEra days) = some (dayOfEra days) :=
    asU64_eq (by omega) (by omega)
  have eraYears : asI64 ((days + 719468) / 146097 * 400) =
      some ((days + 719468) / 146097 * 400) :=
    asI64_eq (by omega) (by omega)
  have y : asI64 (yearOfEra (dayOfEra days) +
      (days + 719468) / 146097 * 400) = some (marchYearOf days) :=
    asI64_eq (by omega) (by omega)
  have doy : dayOfYearChecked (dayOfEra days) (yearOfEra (dayOfEra days)) =
      some (dayOfYearOf days) :=
    dayOfYearChecked_eq inEra
  have scaled : mulU64 5 (dayOfYearOf days) = some (5 * dayOfYearOf days) :=
    mulU64_eq (by omega)
  have shifted : addU64 (5 * dayOfYearOf days) 2 =
      some (5 * dayOfYearOf days + 2) :=
    addU64_eq (by omega)
  have d : dayChecked (dayOfYearOf days) ((5 * dayOfYearOf days + 2) / 153) =
      some (dateOf days).day :=
    dayChecked_eq inYear
  have m : monthChecked ((5 * dayOfYearOf days + 2) / 153) =
      some (dateOf days).month :=
    monthChecked_eq (monthOfDay_spec (dayOfYearOf_lt days)).1
  have year : yearChecked (marchYearOf days) (dateOf days).month =
      some (dateOf days).year := by
    have following : asI64 (marchYearOf days + 1) =
        some (marchYearOf days + 1) := by
      unfold marchYearOf
      exact asI64_eq (by omega) (by omega)
    rw [yearChecked, following]
    exact (apply_ite some _ _ _).symm
  have yoe := yearOfEraChecked_eq inEra
  rw [civilFromDays_eq]
  unfold civilFromDaysChecked
  exact bind_eq_some z <| bind_eq_some era <| bind_eq_some eraDays <|
    bind_eq_some rest <| bind_eq_some doe <| bind_eq_some yoe <|
    bind_eq_some eraYears <| bind_eq_some y <| bind_eq_some doy <|
    bind_eq_some scaled <| bind_eq_some shifted <| bind_eq_some d <|
    bind_eq_some m <| bind_eq_some year rfl

/-! ## Timestamps -/

/-- The day of a number of milliseconds. -/
def dayOf (ms : Int) : Int :=
  ms / 1000 / 86400

/-- The text that stands for a second. -/
def isoText (moment : Moment) : String :=
  padded 4 moment.date.year ++ "-" ++ padded 2 moment.date.month ++ "-" ++
    padded 2 moment.date.day ++ "T" ++ padded 2 moment.hour ++ ":" ++
      padded 2 moment.minute ++ ":" ++ padded 2 moment.second ++ "Z"

/-- The timestamp of `ms` is the text of the second it falls into, and
`civil_from_days` is right about the day. -/
structure RightStamp (ms : Int) (moment : Moment) : Prop where
  seconds : moment.seconds = ms / 1000
  text : formatIso8601 ms = isoText moment
  counted : moment.date = Date.afterEpoch (dayOf ms).toNat
  inRange : civilFromDaysChecked (dayOf ms) = some (civilFromDays (dayOf ms))
  civil : civilFromDays (dayOf ms) = civil moment.date
  toDays : moment.date.toDays = dayOf ms
  inverse : ∀ date : Date, date.toDays = dayOf ms →
    civilFromDays date.toDays = PushDelivery.civil date
  consecutive :
    civilFromDays (dayOf ms + 1) = PushDelivery.civil moment.date.next

/-- The time of the day of a number of milliseconds. -/
def momentOf (ms : Int) : Moment :=
  let second := (ms / 1000 % 86400).toNat
  have inDay : second < 86400 := by omega
  { date := dateOf (dayOf ms)
    hour := second / 3600
    minute := second % 3600 / 60
    second := second % 60
    hour_lt := by omega
    minute_lt := by omega
    second_lt := by omega }

theorem civilFromDays_toDays (date : Date) :
    civilFromDays date.toDays = civil date := by
  have same : dateOf date.toDays = date :=
    Date.toDays_injective (toDays_dateOf date.toDays)
  rw [civilFromDays_eq, same]

theorem dateOf_succ (days : Int) : dateOf (days + 1) = (dateOf days).next := by
  apply Date.toDays_injective
  rw [toDays_dateOf, Date.toDays_next, toDays_dateOf]

theorem dateOf_eq_afterEpoch {days : Int} (nonneg : 0 ≤ days) :
    dateOf days = Date.afterEpoch days.toNat := by
  apply Date.toDays_injective
  rw [toDays_dateOf, Date.toDays_afterEpoch]
  omega

theorem seconds_momentOf (ms : Int) : (momentOf ms).seconds = ms / 1000 := by
  simp only [Moment.seconds, momentOf, toDays_dateOf]
  unfold dayOf
  omega

theorem formatIso8601_eq {ms : Int} (nonneg : 0 ≤ ms) :
    formatIso8601 ms = isoText (momentOf ms) := by
  have secs : ms.tdiv 1000 = ms / 1000 := Int.tdiv_eq_ediv_of_nonneg nonneg
  have days : (ms / 1000).tdiv 86400 = dayOf ms :=
    Int.tdiv_eq_ediv_of_nonneg (by omega)
  have rest : (ms / 1000).tmod 86400 = ms / 1000 % 86400 :=
    Int.tmod_eq_emod_of_nonneg (by omega)
  have hour : (ms / 1000 % 86400).tdiv 3600 = (momentOf ms).hour := by
    rw [Int.tdiv_eq_ediv_of_nonneg (by omega)]
    simp only [momentOf]
    omega
  have minute : ((ms / 1000 % 86400).tmod 3600).tdiv 60 =
      (momentOf ms).minute := by
    rw [Int.tmod_eq_emod_of_nonneg (by omega),
      Int.tdiv_eq_ediv_of_nonneg (by omega)]
    simp only [momentOf]
    omega
  have second : (ms / 1000 % 86400).tmod 60 = (momentOf ms).second := by
    rw [Int.tmod_eq_emod_of_nonneg (by omega)]
    simp only [momentOf]
    omega
  simp only [formatIso8601]
  rw [secs, days, rest, hour, minute, second, civilFromDays_eq]
  rfl

/-- Every timestamp is the right date and time. -/
theorem timestamps_are_right
    (ms : Int) (nonneg : 0 ≤ ms) (bound : ms ≤ 2 ^ 63 - 1) :
    ∃ moment, RightStamp ms moment := by
  have someDay : 0 ≤ dayOf ms := by
    unfold dayOf
    omega
  have lastDay : dayOf ms < 2 ^ 62 := by
    unfold dayOf
    omega
  refine ⟨momentOf ms, ?_⟩
  exact
    { seconds := seconds_momentOf ms
      text := formatIso8601_eq nonneg
      counted := dateOf_eq_afterEpoch someDay
      inRange := civilFromDaysChecked_eq someDay lastDay
      civil := civilFromDays_eq (dayOf ms)
      toDays := toDays_dateOf (dayOf ms)
      inverse := fun date _ => civilFromDays_toDays date
      consecutive := by
        rw [civilFromDays_eq, dateOf_succ]
        rfl }

/-- The last millisecond of a leap day. -/
theorem leap_day_is_right : ∃ moment, RightStamp 951868799999 moment :=
  timestamps_are_right 951868799999 (by decide) (by decide)

end PushDelivery

end A2AShim
