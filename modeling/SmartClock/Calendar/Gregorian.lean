import Mathlib.Algebra.BigOperators.Fin
import Mathlib.Tactic.Common

/-!
# The proleptic Gregorian calendar

Leap years, lengths of months and years, and the day count with 1970-01-01 as day 0. The
count of a date is the days of the years before it, the days of the months before it and
the days before it in its month (`daysFromCivil`); `daysBeforeYear_succ` and
`daysBeforeMonth_succ` say how the first two grow, which is all a conversion by repeated
subtraction needs.
-/

namespace SmartClock.Calendar

def isLeap (year : Int) : Bool := (year % 4 == 0 && year % 100 != 0) || year % 400 == 0

def daysInYear (year : Int) : Int := if isLeap year then 366 else 365

def daysInMonth (year month : Int) : Int :=
  if month = 2 then (if isLeap year then 29 else 28)
  else if month = 4 ∨ month = 6 ∨ month = 9 ∨ month = 11 then 30
  else 31

/-- The leap years from year 1 up to `year`, without it. -/
def leapsBefore (year : Int) : Int := (year - 1) / 4 - (year - 1) / 100 + (year - 1) / 400

/-- The days from 1970-01-01 to the first day of `year`. -/
def daysBeforeYear (year : Int) : Int := 365 * (year - 1970) + (leapsBefore year - leapsBefore 1970)

/-- The days of the months before `month`. -/
def daysBeforeMonth (year month : Int) : Int :=
  ∑ m ∈ Finset.range (month - 1).toNat, daysInMonth year (m + 1)

/-- The number of a day, counted from 1970-01-01. -/
def daysFromCivil (year month day : Int) : Int :=
  daysBeforeYear year + daysBeforeMonth year month + (day - 1)

/-- The day of the week of a numbered day; 0 is Sunday. Day 0 was a Thursday. -/
def weekday (days : Int) : Int := (days + 4) % 7

example : daysFromCivil 2000 2 29 = 11016 ∧ weekday 11016 = 2 := by decide

/-- A day of the calendar. -/
structure IsDate (year month day : Int) : Prop where
  inYear : 1 ≤ month ∧ month ≤ 12
  inMonth : 1 ≤ day ∧ day ≤ daysInMonth year month

theorem isLeap_iff (year : Int) :
    isLeap year = true ↔ year % 4 = 0 ∧ year % 100 ≠ 0 ∨ year % 400 = 0 := by
  simp [isLeap]

theorem daysInYear_pos (year : Int) : 0 < daysInYear year := by
  unfold daysInYear; split <;> decide

theorem daysInMonth_pos (year month : Int) : 0 < daysInMonth year month := by
  unfold daysInMonth; repeat' split
  all_goals decide

@[simp] theorem daysBeforeYear_epoch : daysBeforeYear 1970 = 0 := by decide

/-- The closed form counts each leap year once. -/
theorem leapsBefore_succ (year : Int) :
    leapsBefore (year + 1) = leapsBefore year + if isLeap year then 1 else 0 := by
  unfold leapsBefore
  by_cases leap : isLeap year = true
  · rw [if_pos leap]
    rw [isLeap_iff] at leap
    omega
  · rw [if_neg leap]
    rw [isLeap_iff] at leap
    omega

theorem daysBeforeYear_succ (year : Int) :
    daysBeforeYear (year + 1) = daysBeforeYear year + daysInYear year := by
  unfold daysBeforeYear daysInYear
  rw [leapsBefore_succ]
  split <;> omega

@[simp] theorem daysBeforeMonth_january (year : Int) : daysBeforeMonth year 1 = 0 := rfl

theorem daysBeforeMonth_succ (year : Int) {month : Int} (pos : 1 ≤ month) :
    daysBeforeMonth year (month + 1) = daysBeforeMonth year month + daysInMonth year month := by
  unfold daysBeforeMonth
  rw [show (month + 1 - 1).toNat = (month - 1).toNat + 1 by omega, Finset.sum_range_succ]
  rw [show ((month - 1).toNat : Int) + 1 = month by omega]

/-- The twelve months make a year. -/
theorem daysBeforeMonth_end (year : Int) : daysBeforeMonth year 13 = daysInYear year := by
  have months : daysBeforeMonth year 13 = ∑ m ∈ Finset.range 12, daysInMonth year (m + 1) := rfl
  rw [months, daysInYear]
  simp only [Finset.sum_range_succ, Finset.sum_range_zero, daysInMonth]
  cases isLeap year <;> decide

end SmartClock.Calendar
