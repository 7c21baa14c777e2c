import SmartClock.Text.Tenths
import SmartClock.Screen.DateScreen
import Mathlib.Tactic.Ring
import Mathlib.Tactic.FieldSimp
import Mathlib.Tactic.NormNum

/-!
# `tem_hum.c` and the temperature screen

A reading of the sensor is printed twice: in the log of `tem_hum_update` and on the first
line of `screen_show_temp_hum`. Both print the integer part and a digit on their own. The
screen drops the sign of the digit, and with an integer part of 0 the sign is then lost
(`screen_reads_iff`); the log keeps it, behind the point (`log_reads_iff`). Floating-point
numbers are exact rationals here.
-/

namespace SmartClock.Screen

open Text

/-- `struct sensor_value`: both parts have the sign of the reading. -/
structure SensorValue where
  val1 : Int
  val2 : Int
  fraction : -999999 ≤ val2 ∧ val2 ≤ 999999
  sameSign : 0 ≤ val1 ∧ 0 ≤ val2 ∨ val1 ≤ 0 ∧ val2 ≤ 0

/-- `sensor_value_to_double` -/
def sensorValueToDouble (v : SensorValue) : ℚ := v.val1 + (v.val2 : ℚ) / 1000000

/-- The static variables of `tem_hum.c` that are read elsewhere. -/
structure TemHum where
  temperature : ℚ
  humidity : ℚ

/-- `tem_hum_update`: the variables and what it prints. `none` is a sensor that is not ready. -/
def temHumUpdate (sensor : Option (SensorValue × SensorValue)) (s : TemHum) : TemHum × List UInt8 :=
  match sensor with
  | none => (s, ascii "Sensor not ready\n")
  | some (temp, hum) =>
    let s : TemHum := ⟨sensorValueToDouble temp, sensorValueToDouble hum⟩
    (s, ascii "Temp: " ++ printD (trunc s.temperature) ++ ascii "." ++
      printD ((trunc (s.temperature * 10)).tmod 10) ++ ascii " C | Humidity: " ++
      printD (trunc s.humidity) ++ ascii "." ++ printD ((trunc (s.humidity * 10)).tmod 10) ++
      ascii " %\n")

/-- `screen_show_temp_hum` -/
def screenShowTempHum (s : TemHum) : Lines :=
  let tempInt := trunc s.temperature
  let tempDec := (trunc (s.temperature * 10)).tmod 10
  let tempDec := if tempDec < 0 then -tempDec else tempDec
  { line1 := snprintf 17 (ascii "Temp:  " ++ printD tempInt ++ ascii "." ++ printD tempDec ++ ascii " C")
    line2 := snprintf 17 (ascii "Humid: " ++ printD (trunc s.humidity) ++ ascii "%") }

/-- The word behind a label. -/
def wordAfter (label text : List UInt8) : List UInt8 := (text.drop label.length).takeWhile (· != 32)

/-! ## A reading and its magnitude -/

/-- `|t|` in millionths of a degree. -/
def SensorValue.magnitude (v : SensorValue) : Nat := v.val1.natAbs * 1000000 + v.val2.natAbs

theorem toDouble_of_nonneg {v : SensorValue} (h : 0 ≤ v.val1 ∧ 0 ≤ v.val2) :
    sensorValueToDouble v = (v.magnitude : ℚ) / (1000000 : Nat) := by
  have parts : (v.magnitude : Int) = v.val1 * 1000000 + v.val2 := by
    rw [SensorValue.magnitude]
    omega
  have parts' : (v.magnitude : ℚ) = v.val1 * 1000000 + v.val2 := by exact_mod_cast parts
  rw [sensorValueToDouble, parts']
  push_cast
  ring

theorem toDouble_of_nonpos {v : SensorValue} (h : v.val1 ≤ 0 ∧ v.val2 ≤ 0) :
    sensorValueToDouble v = -((v.magnitude : ℚ) / (1000000 : Nat)) := by
  have parts : (v.magnitude : Int) = -(v.val1 * 1000000 + v.val2) := by
    rw [SensorValue.magnitude]
    omega
  have parts' : (v.magnitude : ℚ) = -(v.val1 * 1000000 + v.val2) := by exact_mod_cast parts
  rw [sensorValueToDouble, parts']
  push_cast
  ring

theorem times_ten (m : Nat) : (m : ℚ) / (1000000 : Nat) * 10 = (m : ℚ) / (100000 : Nat) := by
  push_cast
  ring

/-- The integer part of `|t|` and its first decimal. -/
def SensorValue.whole (v : SensorValue) : Nat := v.magnitude / 1000000
def SensorValue.digit (v : SensorValue) : Nat := v.magnitude / 100000 % 10

theorem digit_lt (v : SensorValue) : v.digit < 10 := Nat.mod_lt _ (by decide)

theorem tenths_eq (v : SensorValue) : v.magnitude / 100000 = 10 * v.whole + v.digit := by
  rw [SensorValue.whole, SensorValue.digit]
  omega

theorem whole_eq (v : SensorValue) : v.whole = v.val1.natAbs := by
  have := v.fraction
  rw [SensorValue.whole, SensorValue.magnitude]
  omega

theorem digit_eq (v : SensorValue) : v.digit = v.val2.natAbs / 100000 := by
  have := v.fraction
  rw [SensorValue.digit, SensorValue.magnitude]
  omega

/-- The two conversions of a reading that is not negative. -/
theorem conversions_of_nonneg {v : SensorValue} (h : 0 ≤ v.val1 ∧ 0 ≤ v.val2) :
    trunc (sensorValueToDouble v) = v.whole ∧
      trunc (sensorValueToDouble v * 10) = (10 * v.whole + v.digit : Nat) := by
  rw [toDouble_of_nonneg h, times_ten, trunc_natCast_div, trunc_natCast_div, tenths_eq]
  exact ⟨rfl, rfl⟩

theorem conversions_of_nonpos {v : SensorValue} (h : v.val1 ≤ 0 ∧ v.val2 ≤ 0) :
    trunc (sensorValueToDouble v) = -(v.whole : Int) ∧
      trunc (sensorValueToDouble v * 10) = -((10 * v.whole + v.digit : Nat) : Int) := by
  rw [toDouble_of_nonpos h, neg_mul, times_ten, trunc_neg, trunc_neg, trunc_natCast_div,
    trunc_natCast_div, tenths_eq]
  exact ⟨rfl, rfl⟩

/-- The remainder takes the sign of the reading. -/
theorem tmod_tenths (n : Nat) {d : Nat} (digit : d < 10) :
    ((10 * n + d : Nat) : Int).tmod 10 = d ∧ (-((10 * n + d : Nat) : Int)).tmod 10 = -(d : Int) := by
  have nat : ((10 * n + d : Nat) : Int).tmod 10 = d := by
    rw [Int.tmod_eq_emod_of_nonneg (by omega)]
    omega
  exact ⟨nat, by rw [Int.neg_tmod, nat]⟩

/-! ## The printed words -/

/-- What two `%d` around a point print. -/
def pointed (n d : Int) : List UInt8 := printD n ++ 46 :: printD d

theorem no_blank_printD {n : Int} {b : UInt8} (inside : b ∈ printD n) : b ≠ 32 := by
  have digits {n : Nat} (inside : b ∈ numeral n) : b ≠ 32 := by
    rintro rfl
    exact absurd (isDigit_of_mem_numeral inside) (by decide)
  unfold printD at inside
  split at inside
  · rcases List.mem_cons.1 inside with rfl | inside
    · decide
    · exact digits inside
  · exact digits inside

theorem no_blank_pointed {n d : Int} {b : UInt8} (inside : b ∈ pointed n d) : b ≠ 32 := by
  rcases List.mem_append.1 inside with inside | inside
  · exact no_blank_printD inside
  · rcases List.mem_cons.1 inside with rfl | inside
    · decide
    · exact no_blank_printD inside

theorem wordAfter_pointed (label : List UInt8) (n d : Int) (rest : List UInt8) :
    wordAfter label (label ++ (pointed n d ++ 32 :: rest)) = pointed n d := by
  rw [wordAfter, List.drop_left]
  exact takeWhile_append_all (fun b inside => by simpa using no_blank_pointed inside) rfl

theorem length_printD_le {n : Int} (range : -9999 ≤ n ∧ n ≤ 99999) : (printD n).length ≤ 5 := by
  have digits {n k : Nat} (pos : k ≠ 0) (below : n < 10 ^ k) : (numeral n).length ≤ k := by
    rw [numeral, List.length_map]
    apply (Nat.length_toDigits_le_iff (by decide) (Nat.pos_of_ne_zero pos)).2
    exact below
  unfold printD
  split
  · have four := @digits n.natAbs 4 (by decide) (by omega)
    rw [List.length_cons]
    omega
  · exact digits (by decide) (by omega)

/-- The first line is short enough for its buffer. -/
theorem wordAfter_line {n : Int} (range : -9999 ≤ n ∧ n ≤ 99999) {d : Nat} (digit : d < 10) :
    wordAfter (ascii "Temp:  ")
      (snprintf 17 (ascii "Temp:  " ++ printD n ++ ascii "." ++ printD d ++ ascii " C")) = pointed n d := by
  have one : (printD d).length = 1 := by
    have natural : printD d = numeral d := if_neg (by omega)
    rw [natural, numeral_of_digit digit]
    rfl
  have fits : (ascii "Temp:  " ++ (pointed n d ++ 32 :: [67])).length ≤ 16 := by
    have five := length_printD_le range
    have label : (ascii "Temp:  ").length = 7 := rfl
    simp only [pointed, List.length_append, List.length_cons, List.length_nil, one, label]
    omega
  have line : ascii "Temp:  " ++ printD n ++ ascii "." ++ printD d ++ ascii " C" =
      ascii "Temp:  " ++ (pointed n d ++ 32 :: [67]) := by
    simp only [pointed, List.append_assoc]
    rfl
  rw [line, snprintf, List.take_of_length_le fits]
  exact wordAfter_pointed _ n d [67]

/-! ## What is read back -/

section Reading

variable {temp : SensorValue}

theorem truncTenths_of_nonneg (h : 0 ≤ temp.val1 ∧ 0 ≤ temp.val2) :
    truncTenths (sensorValueToDouble temp) = ((10 * temp.whole + temp.digit : Nat) : ℚ) / 10 := by
  rw [truncTenths, (conversions_of_nonneg h).2, Int.cast_natCast]

theorem truncTenths_of_nonpos (h : temp.val1 ≤ 0 ∧ temp.val2 ≤ 0) :
    truncTenths (sensorValueToDouble temp) = -(((10 * temp.whole + temp.digit : Nat) : ℚ) / 10) := by
  rw [truncTenths, (conversions_of_nonpos h).2, Int.cast_neg, Int.cast_natCast, neg_div]

/-- A number that is its own negative is 0. -/
theorem tenth_eq_neg_iff (n : Nat) : (n : ℚ) / 10 = -((n : ℚ) / 10) ↔ n = 0 := by
  constructor
  · intro same
    have zero : (n : ℚ) = 0 := by linarith
    exact_mod_cast zero
  · rintro rfl
    norm_num

/-- A digit printed with the sign of the reading dropped. -/
theorem reads_dropped_sign (h : temp.val1 ≤ 0 ∧ temp.val2 ≤ 0) :
    readTenths (pointed (-(temp.whole : Int)) temp.digit) = some (truncTenths (sensorValueToDouble temp)) ↔
      ¬ (temp.whole = 0 ∧ temp.digit ≠ 0) := by
  rw [truncTenths_of_nonpos h, pointed]
  rcases Nat.eq_zero_or_pos temp.whole with zero | positive
  · have printed := readTenths_printed 0 (digit_lt temp)
    rw [zero, Int.natCast_zero, Int.neg_zero, Nat.mul_zero, Nat.zero_add] at *
    rw [printed, Option.some_inj, tenth_eq_neg_iff]
    omega
  · rw [readTenths_printed_neg positive (digit_lt temp)]
    simp only [true_iff]
    omega

/-- The word on the screen. The digit has lost its sign. -/
theorem word_screen (range : -9999 ≤ temp.val1 ∧ temp.val1 ≤ 99999) {s : TemHum}
    (current : s.temperature = sensorValueToDouble temp) :
    wordAfter (ascii "Temp:  ") (screenShowTempHum s).line1 =
      pointed (trunc (sensorValueToDouble temp)) temp.digit := by
  have whole := whole_eq temp
  have dec : (trunc (sensorValueToDouble temp * 10)).tmod 10 = temp.digit ∨
      (trunc (sensorValueToDouble temp * 10)).tmod 10 = -(temp.digit : Int) := by
    have remainder := tmod_tenths temp.whole (digit_lt temp)
    rcases temp.sameSign with h | h
    · exact .inl (by rw [(conversions_of_nonneg h).2, remainder.1])
    · exact .inr (by rw [(conversions_of_nonpos h).2, remainder.2])
  have int : -9999 ≤ trunc (sensorValueToDouble temp) ∧ trunc (sensorValueToDouble temp) ≤ 99999 := by
    rcases temp.sameSign with h | h
    · rw [(conversions_of_nonneg h).1]; omega
    · rw [(conversions_of_nonpos h).1]; omega
  have shown : (if (trunc (sensorValueToDouble temp * 10)).tmod 10 < 0 then
      -(trunc (sensorValueToDouble temp * 10)).tmod 10 else
      (trunc (sensorValueToDouble temp * 10)).tmod 10) = (temp.digit : Int) := by
    rcases dec with same | same <;> rw [same] <;> split <;> omega
  rw [screenShowTempHum, current, shown]
  exact wordAfter_line int (digit_lt temp)

/-- The word in the log. The digit keeps its sign. -/
theorem word_log (hum : SensorValue) (s : TemHum) :
    wordAfter (ascii "Temp: ") (temHumUpdate (some (temp, hum)) s).2 =
      pointed (trunc (sensorValueToDouble temp)) ((trunc (sensorValueToDouble temp * 10)).tmod 10) := by
  rw [← wordAfter_pointed (ascii "Temp: ")]
  simp only [temHumUpdate, pointed, List.append_assoc]
  rfl

/-- **The screen** shows the temperature unless it is negative, above -1 and has a first
decimal: then there is no integer part that could carry the sign. -/
theorem screen_reads_iff (range : -9999 ≤ temp.val1 ∧ temp.val1 ≤ 99999) {s : TemHum}
    (current : s.temperature = sensorValueToDouble temp) :
    readTenths (wordAfter (ascii "Temp:  ") (screenShowTempHum s).line1) =
        some (truncTenths (sensorValueToDouble temp)) ↔
      ¬ (temp.val1 = 0 ∧ temp.val2 ≤ -100000) := by
  have whole := whole_eq temp
  have digit := digit_eq temp
  rw [word_screen range current]
  rcases temp.sameSign with h | h
  · rw [(conversions_of_nonneg h).1, pointed, readTenths_printed _ (digit_lt temp), truncTenths_of_nonneg h]
    simp only [true_iff]
    omega
  · rw [(conversions_of_nonpos h).1, reads_dropped_sign h]
    omega

/-- **The log** shows the temperature unless it is negative and has a first decimal: then a
minus stands behind the point. -/
theorem log_reads_iff (hum : SensorValue) (s : TemHum) :
    readTenths (wordAfter (ascii "Temp: ") (temHumUpdate (some (temp, hum)) s).2) =
        some (truncTenths (sensorValueToDouble temp)) ↔
      0 ≤ temp.val1 ∧ 0 ≤ temp.val2 ∨ temp.val2.natAbs < 100000 := by
  have whole := whole_eq temp
  have digit := digit_eq temp
  have remainder := tmod_tenths temp.whole (digit_lt temp)
  rw [word_log]
  by_cases h : 0 ≤ temp.val1 ∧ 0 ≤ temp.val2
  · obtain ⟨int, tenth⟩ := conversions_of_nonneg h
    rw [int, tenth, remainder.1, pointed, readTenths_printed _ (digit_lt temp), truncTenths_of_nonneg h]
    exact ⟨fun _ => .inl h, fun _ => rfl⟩
  · have negative := temp.sameSign.resolve_left h
    obtain ⟨int, tenth⟩ := conversions_of_nonpos negative
    rw [int, tenth, remainder.2]
    rcases Nat.eq_zero_or_pos temp.digit with zero | positive
    · have same : -(temp.digit : Int) = temp.digit := by omega
      rw [same, reads_dropped_sign negative]
      omega
    · rw [pointed, readTenths_printed_minus _ positive]
      exact ⟨nofun, fun small => by omega⟩

/-- **Both places show the true temperature** exactly for the readings that are not negative
or have no first decimal. -/
theorem temperature_shown_iff (temp hum : SensorValue) (s : TemHum)
    (range : -9999 ≤ temp.val1 ∧ temp.val1 ≤ 99999) :
    let updated := temHumUpdate (some (temp, hum)) s
    readTenths (wordAfter (ascii "Temp:  ") (screenShowTempHum updated.1).line1) =
        some (truncTenths (sensorValueToDouble temp)) ∧
      readTenths (wordAfter (ascii "Temp: ") updated.2) = some (truncTenths (sensorValueToDouble temp)) ↔
      0 ≤ temp.val1 ∧ 0 ≤ temp.val2 ∨ temp.val2.natAbs < 100000 := by
  dsimp only
  rw [screen_reads_iff range rfl, log_reads_iff]
  omega

end Reading

/-- Nothing measured yet. -/
def temHum : TemHum := ⟨0, 0⟩

def halfHumid : SensorValue := ⟨50, 0, by decide, by decide⟩

/-- 21.5 degrees. -/
def warm : SensorValue := ⟨21, 500000, by decide, by decide⟩

/-- Half a degree below zero. -/
def frost : SensorValue := ⟨0, -500000, by decide, by decide⟩

theorem temperature_shown_warm :
    let updated := temHumUpdate (some (warm, halfHumid)) temHum
    readTenths (wordAfter (ascii "Temp:  ") (screenShowTempHum updated.1).line1) =
        some (truncTenths (sensorValueToDouble warm)) ∧
      readTenths (wordAfter (ascii "Temp: ") updated.2) = some (truncTenths (sensorValueToDouble warm)) ↔
      0 ≤ warm.val1 ∧ 0 ≤ warm.val2 ∨ warm.val2.natAbs < 100000 :=
  temperature_shown_iff warm halfHumid temHum (by decide)

/-- The screen shows 0.5 and the log 0.-5. -/
theorem frost_misread :
    let updated := temHumUpdate (some (frost, halfHumid)) temHum
    truncTenths (sensorValueToDouble frost) = -(5 / 10) ∧
      readTenths (wordAfter (ascii "Temp:  ") (screenShowTempHum updated.1).line1) = some (5 / 10) ∧
      readTenths (wordAfter (ascii "Temp: ") updated.2) = none := by
  have negative : frost.val1 ≤ 0 ∧ frost.val2 ≤ 0 := by decide
  have whole : frost.whole = 0 := by decide
  have digit : frost.digit = 5 := by decide
  obtain ⟨int, tenth⟩ := conversions_of_nonpos negative
  have value := truncTenths_of_nonpos negative
  have shown := readTenths_printed 0 (digit_lt frost)
  rw [whole, digit, Nat.mul_zero, Nat.zero_add] at value
  rw [digit, Nat.mul_zero, Nat.zero_add] at shown
  refine ⟨value, ?_, ?_⟩
  · rw [word_screen (by decide) rfl, int, whole, digit]
    exact shown
  · rw [word_log, tenth, (tmod_tenths frost.whole (digit_lt frost)).2]
    exact readTenths_printed_minus _ (by decide)

end SmartClock.Screen
