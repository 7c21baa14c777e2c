import SmartClock.Calendar.Gregorian
import SmartClock.Net.Data
import Mathlib.Tactic.IntervalCases

/-!
# `screen.c`: the date and time screen

`epoch_to_datetime` finds year and month by subtracting their lengths from the days since
the epoch, one after the other. Both searches are one loop (`periodLoop`), and one lemma
says where it ends (`periodLoop_spec`): in the period the days fall into. So the result is
the date and time of the epoch (`epochToDatetime_spec`).

A C `long` is an integer that every addition, subtraction and multiplication puts through
`long`: `exact` takes any result, `long32` only those of a 32-bit `long`, and `none` is
signed overflow.
-/

namespace SmartClock.Screen

open Text Calendar Net

/-- How a `long` takes the exact result of an operation. -/
abbrev Long := Int → Option Int

def exact : Long := some

def long32 : Long := fun n => if -2147483648 ≤ n ∧ n ≤ 2147483647 then some n else none

/-- The out parameters of `epoch_to_datetime`. -/
structure Datetime where
  year : Int
  month : Int
  day : Int
  hour : Int
  min : Int
  sec : Int
  wday : Int
deriving DecidableEq, Repr

section Conversion

variable (long : Long)

/-- The `leap` of the source. -/
def leap (year : Int) : Bool := (year.tmod 4 == 0 && year.tmod 100 != 0) || year.tmod 400 == 0

/-- `static const int mdays[13]` -/
def mdays : List Int := [0, 31, 28, 31, 30, 31, 30, 31, 31, 30, 31, 30, 31]

/-- While the counter `i` is below its end, which is `left` rounds away: stop if period `i`
is longer than `d`, else subtract its length from `d` and go on to the next. -/
def periodLoop (length : Int → Int) : Nat → Int → Int → Option (Int × Int)
  | 0, i, d => some (i, d)
  | left + 1, i, d =>
    if d < length i then some (i, d)
    else do
      let d ← long (d - length i)
      periodLoop length left (i + 1) d

/-- `while (*year < 2100)`, from 1970 on. -/
def yearLoop (d : Int) : Option (Int × Int) :=
  periodLoop long (fun year => if leap year then 366 else 365) (2100 - 1970) 1970 d

/-- `for (*month = 1; *month <= 12; (*month)++)` -/
def monthLoop (leap : Bool) (d : Int) : Option (Int × Int) :=
  periodLoop long (fun month => mdays.getD month.toNat 0 + if month == 2 && leap then 1 else 0) 12 1 d

/-- `epoch_to_datetime` -/
def epochToDatetime (epoch : Int) : Option Datetime := do
  let epoch := if epoch < 0 then 0 else epoch
  let sec := epoch.tmod 60
  let min := (epoch.tdiv 60).tmod 60
  let hour := (epoch.tdiv 3600).tmod 24
  let daysTotal := epoch.tdiv 86400
  let fromSunday ← long (daysTotal + 4)
  let wday := fromSunday.tmod 7
  let (year, d) ← yearLoop long daysTotal
  let (month, d) ← monthLoop long (leap year) d
  let month := if month > 12 then 12 else month
  return { year, month, day := d + 1, hour, min, sec, wday }

end Conversion

/-- The date and time of day of `epoch` in UTC. -/
structure IsUtc (epoch : Int) (t : Datetime) : Prop where
  date : IsDate t.year t.month t.day
  hour : 0 ≤ t.hour ∧ t.hour < 24
  min : 0 ≤ t.min ∧ t.min < 60
  sec : 0 ≤ t.sec ∧ t.sec < 60
  total : daysFromCivil t.year t.month t.day * 86400 + t.hour * 3600 + t.min * 60 + t.sec = epoch
  wday : t.wday = weekday (daysFromCivil t.year t.month t.day)

/-! ## The loops -/

theorem leap_eq (year : Int) : leap year = isLeap year := by
  have four := Int.dvd_iff_tmod_eq_zero (a := 4) (b := year)
  have hundred := Int.dvd_iff_tmod_eq_zero (a := 100) (b := year)
  have four_hundred := Int.dvd_iff_tmod_eq_zero (a := 400) (b := year)
  rw [Bool.eq_iff_iff, isLeap_iff]
  simp only [leap, Bool.or_eq_true, Bool.and_eq_true, beq_iff_eq, bne_iff_ne, ne_eq]
  omega

/-- The row of a month in `mdays`, with its leap correction. -/
theorem mdays_eq (year : Int) {month : Int} (range : 1 ≤ month ∧ month ≤ 12) :
    mdays.getD month.toNat 0 + (if month == 2 && isLeap year then 1 else 0) =
      daysInMonth year month := by
  obtain ⟨lo, hi⟩ := range
  unfold daysInMonth
  interval_cases month <;> cases isLeap year <;> rfl

/-- **Where the loop ends**: at the period the days fall into, if there is one before its
last round. `before i` is the number of days before period `i`. -/
theorem periodLoop_spec {long : Long} {bound : Int}
    (fits : ∀ n, 0 ≤ n → n < bound → long n = some n) (length before : Int → Int) (left : Nat) (i d : Int)
    (next : ∀ j, i ≤ j → j < i + left → 0 < length j ∧ before (j + 1) = before j + length j)
    (range : 0 ≤ d ∧ d < bound) :
    ∃ j d', periodLoop long length left i d = some (j, d') ∧ i ≤ j ∧ j ≤ i + left ∧ 0 ≤ d' ∧
      before j + d' = before i + d ∧ (j < i + left → d' < length j) := by
  induction left generalizing i d with
  | zero => exact ⟨i, d, rfl, by omega, by omega, range.1, rfl, by omega⟩
  | succ left ih =>
    rw [periodLoop]
    by_cases inside : d < length i
    · rw [if_pos inside]
      exact ⟨i, d, rfl, by omega, by omega, range.1, rfl, fun _ => inside⟩
    · obtain ⟨pos, grown⟩ := next i (by omega) (by omega)
      rw [if_neg inside, fits _ (by omega) (by omega)]
      obtain ⟨j, d', run, lo, hi, nonneg, days, last⟩ := ih (i + 1) (d - length i)
        (fun j lo hi => next j (by omega) (by omega)) (by omega)
      exact ⟨j, d', run, by omega, by omega, nonneg, by omega, fun more => last (by omega)⟩

section Conversion

variable {long : Long} (fits : ∀ n, 0 ≤ n → n < 47851 → long n = some n)

include fits

theorem yearLoop_spec {d : Int} (range : 0 ≤ d ∧ d < 47847) :
    ∃ year d', yearLoop long d = some (year, d') ∧ 0 ≤ d' ∧ d' < daysInYear year ∧
      daysBeforeYear year + d' = d := by
  obtain ⟨year, d', run, lo, hi, nonneg, days, last⟩ :=
    periodLoop_spec fits daysInYear daysBeforeYear (2100 - 1970) 1970 d
      (fun year _ _ => ⟨daysInYear_pos year, daysBeforeYear_succ year⟩) (by omega)
  refine ⟨year, d', ?_, nonneg, ?_, by simpa using days⟩
  · simp only [yearLoop, leap_eq]; exact run
  · by_cases more : year < 2100
    · exact last (by omega)
    · -- behind the last round is the year 2100, which the bound on `d` covers
      obtain rfl : year = 2100 := by omega
      have before : daysBeforeYear 2100 = 47482 := by decide
      have length : daysInYear 2100 = 365 := by decide
      rw [daysBeforeYear_epoch] at days
      omega

theorem monthLoop_spec {year d : Int} (range : 0 ≤ d ∧ d < daysInYear year) :
    ∃ month d', monthLoop long (isLeap year) d = some (month, d') ∧ 1 ≤ month ∧ month ≤ 12 ∧
      0 ≤ d' ∧ d' < daysInMonth year month ∧ daysBeforeMonth year month + d' = d := by
  have short : daysInYear year ≤ 366 := by unfold daysInYear; split <;> decide
  obtain ⟨month, d', run, lo, hi, nonneg, days, last⟩ :=
    periodLoop_spec fits
      (fun month => mdays.getD month.toNat 0 + if month == 2 && isLeap year then 1 else 0)
      (daysBeforeMonth year) 12 1 d
      (fun month lo hi => by
        rw [mdays_eq year ⟨lo, by omega⟩]
        exact ⟨daysInMonth_pos year month, daysBeforeMonth_succ year lo⟩) (by omega)
  rw [daysBeforeMonth_january] at days
  have found : month ≤ 12 := by
    by_contra beyond
    obtain rfl : month = 13 := by omega
    rw [daysBeforeMonth_end] at days
    omega
  refine ⟨month, d', run, lo, found, nonneg, ?_, by omega⟩
  rw [← mdays_eq year ⟨lo, found⟩]
  exact last (by omega)

/-- **The conversion**, with any `long` that holds the numbers of days it works on. -/
theorem epochToDatetime_spec {epoch : Int} (range : epoch < 4133980800) :
    ∃ t, epochToDatetime long epoch = some t ∧ IsUtc (max epoch 0) t := by
  obtain ⟨seconds, eq, nonneg, bound⟩ : ∃ seconds, (if epoch < 0 then 0 else epoch) = seconds ∧
      0 ≤ seconds ∧ seconds < 4133980800 := ⟨_, rfl, by split <;> omega, by split <;> omega⟩
  have clamped : max epoch 0 = seconds := by rw [← eq]; split <;> omega
  obtain ⟨year, d, run, lo, hi, days⟩ := yearLoop_spec fits (show 0 ≤ seconds / 86400 ∧ seconds / 86400 < 47847 by omega)
  obtain ⟨month, d', run', first, last, lo', hi', days'⟩ := monthLoop_spec fits ⟨lo, hi⟩
  have sum : long (seconds / 86400 + 4) = some (seconds / 86400 + 4) := fits _ (by omega) (by omega)
  have total : daysFromCivil year month (d' + 1) = seconds / 86400 := by unfold daysFromCivil; omega
  have hour : (seconds / 3600).tmod 24 = seconds / 3600 % 24 := Int.tmod_eq_emod_of_nonneg (by omega)
  have min : (seconds / 60).tmod 60 = seconds / 60 % 60 := Int.tmod_eq_emod_of_nonneg (by omega)
  have wday : (seconds / 86400 + 4).tmod 7 = weekday (seconds / 86400) :=
    Int.tmod_eq_emod_of_nonneg (by omega)
  refine ⟨⟨year, month, d' + 1, seconds / 3600 % 24, seconds / 60 % 60, seconds % 60,
    weekday (seconds / 86400)⟩, ?_, ?_⟩
  · simp only [epochToDatetime, eq, Int.tdiv_eq_ediv_of_nonneg nonneg,
      Int.tmod_eq_emod_of_nonneg nonneg, sum, run, leap_eq, run', hour, min, wday, Option.bind_eq_bind,
      Option.bind_some, if_neg (Int.not_lt.2 last), pure]
  · rw [clamped]
    constructor <;> dsimp only
    · exact ⟨⟨first, last⟩, by omega, by omega⟩
    · omega
    · omega
    · omega
    · omega
    · rw [total]

end Conversion

/-- **The calendar is Gregorian**: in exact integers `epoch_to_datetime` ends with the date,
the time of day and the weekday of every epoch before 2101, with a negative one as 0. -/
theorem epochToDatetime_gregorian {epoch : Int} (range : epoch < 4133980800) :
    ∃ t, epochToDatetime exact epoch = some t ∧ IsUtc (max epoch 0) t :=
  epochToDatetime_spec (fun _ _ _ => rfl) range

/-- Some second of 29 February 2000. -/
theorem epochToDatetime_leap_day :
    ∃ t, epochToDatetime exact 951827696 = some t ∧ IsUtc (max 951827696 0) t :=
  epochToDatetime_gregorian (by decide)

example : epochToDatetime exact 951827696 = some ⟨2000, 2, 29, 12, 34, 56, 2⟩ := by decide

end SmartClock.Screen
