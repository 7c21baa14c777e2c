import SmartClock.Text.Search
import Mathlib.Data.List.TakeWhile

/-!
# C strings in byte memory

A memory object is the list of its bytes, a pointer into it the bytes from there on. The
string a pointer designates ends before the first NUL; an object without a NUL holds no
string, and a library function that is given one reads past its end (`cstr` is `none`).
-/

namespace SmartClock.Text

/-- A C string without its terminator. -/
abbrev CStr := {s : List UInt8 // 0 ∉ s}

/-- The bytes of an ASCII literal. -/
def ascii (s : String) : List UInt8 := s.toList.map fun c => c.toNat.toUInt8

/-- No byte of a C string is NUL. -/
theorem zero_not_mem_takeWhile (mem : List UInt8) : (0 : UInt8) ∉ mem.takeWhile (· != 0) := by
  intro inside
  have := List.mem_takeWhile_imp inside
  simp at this

/-- The bytes of an object up to its first NUL. -/
def upToZero (mem : List UInt8) : CStr := ⟨mem.takeWhile (· != 0), zero_not_mem_takeWhile mem⟩

/-- The string behind its first `n` bytes. -/
def dropStr (s : CStr) (n : Nat) : CStr := ⟨s.1.drop n, fun inside => s.2 (List.mem_of_mem_drop inside)⟩

/-- The string of its first `n` bytes. -/
def takeStr (s : CStr) (n : Nat) : CStr := ⟨s.1.take n, fun inside => s.2 (List.mem_of_mem_take inside)⟩

/-- The string at a pointer. -/
def cstr (mem : List UInt8) : Option CStr := if 0 ∈ mem then some (upToZero mem) else none

theorem cstr_eq_none_iff {mem : List UInt8} : cstr mem = none ↔ 0 ∉ mem := by
  simp [cstr]

theorem upToZero_append_of_zero {data : List UInt8} (zero : 0 ∈ data) (more : List UInt8) :
    upToZero (data ++ more) = upToZero data := by
  apply Subtype.ext
  show (data ++ more).takeWhile (· != 0) = data.takeWhile (· != 0)
  induction data with
  | nil => cases zero
  | cons b data ih =>
    by_cases nul : b = 0
    · simp [nul]
    · have later : 0 ∈ data := (List.mem_cons.1 zero).resolve_left (Ne.symm nul)
      simp [nul, ih later]

theorem upToZero_of_no_zero {data : List UInt8} (clean : 0 ∉ data) : (upToZero data).1 = data := by
  show data.takeWhile (· != 0) = data
  rw [List.takeWhile_eq_self_iff]
  intro b inside
  simpa using fun e : b = 0 => clean (e ▸ inside)

/-- A scan does not look behind its stop. -/
theorem takeWhile_append_stop {p : UInt8 → Bool} (a b : List UInt8) {c : UInt8} (stop : p c = false) :
    (a ++ c :: b).takeWhile p = a.takeWhile p := by
  induction a with
  | nil => simp [stop]
  | cons d a ih =>
    cases h : p d <;> simp [h, ih]

theorem takeWhile_append_all {p : UInt8 → Bool} {a b : List UInt8} {c : UInt8}
    (all : ∀ x ∈ a, p x = true) (stop : p c = false) : (a ++ c :: b).takeWhile p = a := by
  rw [takeWhile_append_stop _ _ stop, List.takeWhile_eq_self_iff.2 all]

/-- NULs behind the data end the same string. -/
theorem upToZero_append_zeros (data : List UInt8) (n : Nat) :
    upToZero (data ++ List.replicate n 0) = upToZero data := by
  by_cases zero : 0 ∈ data
  · exact upToZero_append_of_zero zero _
  · cases n with
    | zero => rw [List.replicate_zero, List.append_nil]
    | succ n =>
      apply Subtype.ext
      rw [upToZero_of_no_zero zero]
      exact takeWhile_append_all (fun b inside => by simpa using fun e : b = 0 => zero (e ▸ inside)) rfl

/-- The string in a buffer that holds data and NULs. -/
theorem cstr_zeroed {data : List UInt8} {n : Nat} (ends : 0 < n ∨ 0 ∈ data) :
    cstr (data ++ List.replicate n 0) = some (upToZero data) := by
  have zero : 0 ∈ data ++ List.replicate n 0 := by
    rcases ends with pos | inside
    · exact List.mem_append_right _ (List.mem_replicate.2 ⟨by omega, rfl⟩)
    · exact List.mem_append_left _ inside
  rw [cstr, if_pos zero, upToZero_append_zeros]

/-! ## `atoi` -/

def isSpace (b : UInt8) : Bool := b == 32 || (9 ≤ b && b ≤ 13)

def isDigit (b : UInt8) : Bool := 48 ≤ b && b ≤ 57

/-- The value of a string of decimal digits. -/
def decimal (digits : List UInt8) : Nat :=
  digits.foldl (fun n d => 10 * n + (d.toNat - 48)) 0

/-- The range of a 32-bit `int`. -/
def intMin : Int := -2147483648
def intMax : Int := 2147483647

/-- A value outside the range of `long` becomes the nearest end of it. -/
def saturate (n : Int) : Int := max intMin (min intMax n)

theorem saturate_range (n : Int) : intMin ≤ saturate n ∧ saturate n ≤ intMax := by
  have order : intMin ≤ intMax := by decide
  unfold saturate
  omega

/-- newlib's `atoi`, which is `strtol` in base 10 with a 32-bit `long`: leading blanks, an
optional sign, then digits, saturating. -/
def atoi (s : List UInt8) : Int :=
  match s.dropWhile isSpace with
  | [] => 0
  | c :: rest =>
    if c = 45 then saturate (-(decimal (rest.takeWhile isDigit) : Int))
    else if c = 43 then saturate (decimal (rest.takeWhile isDigit))
    else saturate (decimal ((c :: rest).takeWhile isDigit))

/-! ## Numerals -/

/-- The decimal numeral of a natural number. -/
def numeral (n : Nat) : List UInt8 := (Nat.toDigits 10 n).map fun c => c.toNat.toUInt8

/-- `%d` -/
def printD (n : Int) : List UInt8 := if n < 0 then 45 :: numeral n.natAbs else numeral n.toNat

/-- `%02d` -/
def print02d (n : Int) : List UInt8 := if 0 ≤ n ∧ n < 10 then 48 :: numeral n.toNat else printD n

/-- What `snprintf` leaves of a text in a buffer. -/
def snprintf (size : Nat) (text : List UInt8) : List UInt8 := text.take (size - 1)

theorem numeral_ne_nil (n : Nat) : numeral n ≠ [] := by
  simp [numeral, Nat.toDigits_ne_nil]

/-- A digit character is its byte. -/
theorem toNat_digit {n : Nat} {c : Char} (h : c ∈ Nat.toDigits 10 n) :
    48 ≤ c.toNat ∧ c.toNat ≤ 57 ∧ c.toNat.toUInt8.toNat = c.toNat := by
  have digit : c.isDigit = true := Nat.isDigit_of_mem_toDigits (by decide) (by decide) h
  have range : 48 ≤ c.toNat ∧ c.toNat ≤ 57 := by
    simpa [Char.isDigit, UInt32.le_iff_toNat_le] using digit
  refine ⟨range.1, range.2, ?_⟩
  rw [Nat.toUInt8_eq, UInt8.toNat_ofNat']
  omega

theorem isDigit_of_mem_numeral {n : Nat} {d : UInt8} (h : d ∈ numeral n) : isDigit d = true := by
  obtain ⟨c, inside, rfl⟩ := List.mem_map.1 h
  obtain ⟨low, high, byte⟩ := toNat_digit inside
  simp only [isDigit, Bool.and_eq_true, decide_eq_true_eq, UInt8.le_iff_toNat_le, byte]
  exact ⟨low, high⟩

theorem zero_not_mem_numeral (n : Nat) : 0 ∉ numeral n := fun inside =>
  absurd (isDigit_of_mem_numeral inside) (by decide)

theorem zero_not_mem_printD (n : Int) : 0 ∉ printD n := by
  unfold printD
  split <;> simp [zero_not_mem_numeral]

theorem zero_not_mem_print02d (n : Int) : 0 ∉ print02d n := by
  unfold print02d
  split
  · simp [zero_not_mem_numeral]
  · exact zero_not_mem_printD n

/-- A numeral denotes its number. -/
theorem decimal_numeral (n : Nat) : decimal (numeral n) = n := by
  have same : ∀ (cs : List Char) (init : Nat), (∀ c ∈ cs, c.toNat.toUInt8.toNat = c.toNat) →
      (cs.map fun c => c.toNat.toUInt8).foldl (fun n d => 10 * n + (d.toNat - 48)) init =
        Nat.ofDigitChars 10 cs init := by
    intro cs
    induction cs with
    | nil => intro init _; rfl
    | cons c cs ih =>
      intro init bytes
      have here := bytes c List.mem_cons_self
      rw [List.map_cons, List.foldl_cons, here, Nat.ofDigitChars_cons]
      exact ih _ fun d inside => bytes d (List.mem_cons_of_mem _ inside)
  rw [decimal, numeral, same _ _ fun c inside => (toNat_digit inside).2.2]
  exact Nat.ofDigitChars_ten_toDigits

theorem isSpace_of_digit {c : UInt8} (digit : isDigit c = true) : isSpace c = false := by
  have range : 48 ≤ c ∧ c ≤ 57 := by simpa [isDigit] using digit
  simp only [isSpace, Bool.or_eq_false_iff, Bool.and_eq_false_iff, beq_eq_false_iff_ne,
    decide_eq_false_iff_not]
  refine ⟨?_, .inr fun high => absurd (UInt8.le_trans range.1 high) (by decide)⟩
  rintro rfl
  exact absurd range (by decide)

/-- `atoi` of a numeral that a non-digit ends. -/
theorem atoi_numeral {digits rest : List UInt8} {c : UInt8} (ne : digits ≠ [])
    (all : ∀ d ∈ digits, isDigit d = true) (stop : isDigit c = false) :
    atoi (digits ++ c :: rest) = saturate (decimal digits) := by
  cases digits with
  | nil => exact absurd rfl ne
  | cons d ds =>
    have digit := all d List.mem_cons_self
    have range : 48 ≤ d ∧ d ≤ 57 := by simpa [isDigit] using digit
    have notMinus : d ≠ 45 := by rintro rfl; exact absurd range (by decide)
    have notPlus : d ≠ 43 := by rintro rfl; exact absurd range (by decide)
    have whole := takeWhile_append_all (b := rest) all stop
    rw [atoi, List.cons_append, List.dropWhile_cons_of_neg (by simp [isSpace_of_digit digit])]
    simp only [notMinus, notPlus, if_false]
    rw [← List.cons_append, whole]

theorem atoi_numeral_nat (n : Nat) {rest : List UInt8} {c : UInt8} (stop : isDigit c = false) :
    atoi (numeral n ++ c :: rest) = saturate n := by
  rw [atoi_numeral (numeral_ne_nil n) (fun d inside => isDigit_of_mem_numeral inside) stop, decimal_numeral]

theorem atoi_range (s : List UInt8) : intMin ≤ atoi s ∧ atoi s ≤ intMax := by
  unfold atoi
  split
  · decide
  · split
    · exact saturate_range _
    · split <;> exact saturate_range _

end SmartClock.Text
