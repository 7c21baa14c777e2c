import SmartClock.Text.CString
import Mathlib.Data.Rat.Floor

/-!
# Numerals with one fraction digit

A sign, an integer part, a point and one digit, read back as a rational number. What two
`%d` around a point print is such a numeral exactly when the second number is a digit
(`readTenths_printed`, `readTenths_printed_minus`): its own sign would stand behind the
point.
-/

namespace SmartClock.Text

/-- The tenths of a numeral without a sign. -/
def tenths (s : List UInt8) : Option Nat :=
  let whole := s.takeWhile isDigit
  match s.dropWhile isDigit with
  | [c, d] =>
    if c = 46 ∧ isDigit d = true ∧ whole ≠ [] then some (10 * decimal whole + (d.toNat - 48)) else none
  | _ => none

/-- The number a numeral with one fraction digit denotes. -/
def readTenths : List UInt8 → Option ℚ
  | 45 :: s => (tenths s).map fun n => -((n : ℚ) / 10)
  | s => (tenths s).map fun n => (n : ℚ) / 10

/-- A conversion to `int` cuts the fraction off. -/
def trunc (q : ℚ) : Int := q.num.tdiv q.den

/-- A number cut after its first decimal. -/
def truncTenths (q : ℚ) : ℚ := (trunc (q * 10) : ℚ) / 10

theorem trunc_neg (q : ℚ) : trunc (-q) = -trunc q := by
  rw [trunc, trunc, Rat.neg_num, Rat.neg_den, Int.neg_tdiv]

theorem trunc_natCast_div (n d : Nat) : trunc ((n : ℚ) / d) = ((n / d : Nat) : Int) := by
  have positive : 0 ≤ ((n : ℚ) / d).num := Rat.num_nonneg.2 (by positivity)
  rw [trunc, Int.tdiv_eq_ediv_of_nonneg positive, ← Rat.floor_def', Rat.floor_natCast_div_natCast]
  rfl

theorem numeral_of_digit {d : Nat} (digit : d < 10) : numeral d = [(48 + d).toUInt8] := by
  revert d
  decide

/-- A digit in its byte. -/
theorem digit_byte {d : Nat} (digit : d < 10) :
    isDigit (48 + d).toUInt8 = true ∧ (48 + d).toUInt8.toNat - 48 = d := by
  revert d
  decide

theorem takeWhile_numeral (n : Nat) (rest : List UInt8) :
    (numeral n ++ 46 :: rest).takeWhile isDigit = numeral n :=
  takeWhile_append_all (fun _ inside => isDigit_of_mem_numeral inside) rfl

theorem dropWhile_numeral (n : Nat) (rest : List UInt8) :
    (numeral n ++ 46 :: rest).dropWhile isDigit = 46 :: rest := by
  rw [List.dropWhile_append_of_pos fun _ inside => isDigit_of_mem_numeral inside]
  rfl

theorem tenths_numeral (n : Nat) {d : Nat} (digit : d < 10) :
    tenths (numeral n ++ 46 :: numeral d) = some (10 * n + d) := by
  obtain ⟨isdigit, value⟩ := digit_byte digit
  rw [tenths, takeWhile_numeral, dropWhile_numeral, numeral_of_digit digit]
  dsimp only
  rw [if_pos ⟨rfl, isdigit, numeral_ne_nil n⟩, decimal_numeral, value]

/-- A minus behind the point is no digit. -/
theorem tenths_minus (n : Nat) (rest : List UInt8) :
    tenths (numeral n ++ 46 :: 45 :: rest) = none := by
  rw [tenths, dropWhile_numeral]
  cases rest with
  | nil => exact if_neg fun all => absurd all.2.1 (by decide)
  | cons _ _ => rfl

/-- No numeral starts with a minus. -/
theorem readTenths_numeral (n : Nat) (rest : List UInt8) :
    readTenths (numeral n ++ rest) = (tenths (numeral n ++ rest)).map fun n => (n : ℚ) / 10 := by
  cases digits : numeral n with
  | nil => exact absurd digits (numeral_ne_nil n)
  | cons c cs =>
    have notMinus : c ≠ 45 := by
      rintro rfl
      have digit : isDigit 45 = true :=
        isDigit_of_mem_numeral (by rw [digits]; exact List.mem_cons_self)
      exact absurd digit (by decide)
    rw [List.cons_append, readTenths]
    intro s same
    exact notMinus (List.cons.inj same).1

/-- What `"%d.%d"` prints of an integer part and a digit. -/
theorem readTenths_printed (n : Nat) {d : Nat} (digit : d < 10) :
    readTenths (printD n ++ 46 :: printD d) = some (((10 * n + d : Nat) : ℚ) / 10) := by
  have natural (n : Nat) : printD n = numeral n := if_neg (by omega)
  rw [natural, natural, readTenths_numeral, tenths_numeral n digit]
  rfl

theorem readTenths_printed_neg {n : Nat} (positive : 0 < n) {d : Nat} (digit : d < 10) :
    readTenths (printD (-n) ++ 46 :: printD d) = some (-(((10 * n + d : Nat) : ℚ) / 10)) := by
  have natural : printD d = numeral d := if_neg (by omega)
  have negative : printD (-n) = 45 :: numeral n := by
    rw [printD, if_pos (by omega), Int.natAbs_neg, Int.natAbs_natCast]
  rw [negative, natural, List.cons_append, readTenths, tenths_numeral n digit]
  rfl

/-- What `"%d.%d"` prints of a negative second number is no numeral. -/
theorem readTenths_printed_minus (n : Int) {d : Nat} (positive : 0 < d) :
    readTenths (printD n ++ 46 :: printD (-d)) = none := by
  have fraction : printD (-d) = 45 :: numeral d := by
    rw [printD, if_pos (by omega), Int.natAbs_neg, Int.natAbs_natCast]
  rw [fraction, printD]
  split
  · rw [List.cons_append, readTenths, tenths_minus]
    rfl
  · rw [readTenths_numeral, tenths_minus]
    rfl

end SmartClock.Text
