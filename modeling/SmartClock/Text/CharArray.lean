import SmartClock.Text.CString

/-!
# Copying text into a char array

The loop both parsers use to fill a field: copy bytes until the source ends, a stop byte
is met, or one place is left for the terminator. Every store carries the proof that its
index is inside the array. `copyField_eq` gives the loop's whole effect: the array holds
the copied text and its terminator, and behind them what it held before.
-/

namespace SmartClock.Text

/-- A `char[n]`. -/
abbrev CharArray (n : Nat) := Vector UInt8 n

variable {n : Nat}

/-- `memcpy(dest + off, src, n)`: `none` if it writes past the array's end. -/
def memcpy (dest : CharArray n) (off : Nat) (src : List UInt8) : Option (CharArray n) :=
  if h : off + src.length ≤ n then
    some ⟨(dest.toList.take off ++ src ++ dest.toList.drop (off + src.length)).toArray, by simp; omega⟩
  else none

/-- An array that holds `data` and NULs behind it. -/
def HoldsZeroed (a : CharArray n) (data : List UInt8) : Prop :=
  data.length ≤ n ∧ a.toList = data ++ List.replicate (n - data.length) 0

theorem holdsZeroed_zero : HoldsZeroed (Vector.replicate n 0) [] := ⟨Nat.zero_le _, by simp⟩

/-- Appending at the end of the data. -/
theorem HoldsZeroed.memcpy {a : CharArray n} {data src : List UInt8} (h : HoldsZeroed a data)
    (fits : data.length + src.length ≤ n) :
    ∃ a', memcpy a data.length src = some a' ∧ HoldsZeroed a' (data ++ src) := by
  refine ⟨_, dif_pos fits, by rwa [List.length_append], ?_⟩
  show (a.toList.take data.length ++ src ++ a.toList.drop (data.length + src.length)).toArray.toList = _
  rw [h.2, List.take_left, ← List.drop_drop, List.drop_left, List.drop_replicate, List.length_append,
    Nat.sub_sub]

theorem memcpy_eq_none_iff {a : CharArray n} {off : Nat} {src : List UInt8} :
    Text.memcpy a off src = none ↔ n < off + src.length := by
  unfold Text.memcpy
  split <;> simp <;> omega

/-- The string a char array holds. -/
def CharArray.text (a : CharArray n) : List UInt8 := a.toList.takeWhile (· != 0)

theorem CharArray.head_ne_zero {a : CharArray n} (ne : a.text ≠ []) : a.toList.head? ≠ some 0 := by
  intro zero
  obtain ⟨rest, list⟩ : ∃ rest, a.toList = 0 :: rest := List.head?_eq_some_iff.1 zero
  rw [CharArray.text, list] at ne
  exact ne rfl

/-- A string shorter than its array ends with a NUL in it. -/
theorem CharArray.toList_eq_text {a : CharArray n} (short : a.text.length < n) :
    ∃ rest, a.toList = a.text ++ 0 :: rest := by
  have split : a.text ++ a.toList.dropWhile (· != 0) = a.toList := List.takeWhile_append_dropWhile
  cases tail : a.toList.dropWhile (· != 0) with
  | nil =>
    rw [tail, List.append_nil] at split
    rw [split, Vector.length_toList] at short
    exact absurd short (Nat.lt_irrefl n)
  | cons b rest =>
    have stops := List.head?_dropWhile_not (· != 0) a.toList
    rw [tail] at stops split
    obtain rfl : b = 0 := by simpa using stops
    exact ⟨rest, split.symm⟩

/-- `while (*pos && !stop(*pos) && j < n - 1) dest[j++] = *pos++;` on a string without its
terminator: the empty list is where `*pos` is NUL. -/
def copyUntil (stop : UInt8 → Bool) (dest : CharArray n) (j : Fin n) :
    List UInt8 → CharArray n × Fin n × List UInt8
  | [] => (dest, j, [])
  | b :: pos =>
    if h : stop b = false ∧ j.val < n - 1 then
      copyUntil stop (dest.set j b j.isLt) ⟨j.val + 1, Nat.add_lt_of_lt_sub h.2⟩ pos
    else (dest, j, b :: pos)

/-- The copy loop from index 0 and the terminator after it: the array, the number of bytes
copied and the pointer behind them. -/
def copyField (size : 0 < n) (stop : UInt8 → Bool) (dest : CharArray n) (pos : List UInt8) :
    CharArray n × Nat × List UInt8 :=
  let (dest, j, pos) := copyUntil stop dest ⟨0, size⟩ pos
  (dest.set j 0 j.isLt, j.val, pos)

/-- The bytes the copy loop copies. -/
def fieldText (n : Nat) (stop : UInt8 → Bool) (pos : List UInt8) : List UInt8 :=
  (pos.takeWhile fun b => !stop b).take (n - 1)

/-- `text` and a terminator over the front of `dest`. -/
def storeText (dest : CharArray n) (text : List UInt8) : CharArray n :=
  .ofFn fun i => if h : i.val < text.length then text[i] else if i.val = text.length then 0 else dest[i]

/-- One step of the copy loop. -/
theorem copyUntil_cons {stop : UInt8 → Bool} {dest : CharArray n} {j : Fin n} {b : UInt8}
    {pos : List UInt8} (go : stop b = false) (room : j.val < n - 1) :
    copyUntil stop dest j (b :: pos) =
      copyUntil stop (dest.set j b j.isLt) ⟨j.val + 1, Nat.add_lt_of_lt_sub room⟩ pos := by
  rw [copyUntil, dif_pos ⟨go, room⟩]

/-- The copy loop stops where its text ends. -/
theorem copyUntil_stop {stop : UInt8 → Bool} {dest : CharArray n} {j : Fin n} {pos : List UInt8}
    (done : (pos.takeWhile fun b => !stop b).take (n - 1 - j.val) = []) :
    copyUntil stop dest j pos = (dest, j, pos) := by
  cases pos with
  | nil => rfl
  | cons b pos =>
    rw [copyUntil, dif_neg]
    rintro ⟨go, room⟩
    rw [List.takeWhile_cons_of_pos (by simp [go])] at done
    have := congrArg List.length done
    simp only [List.length_take, List.length_cons, List.length_nil] at this
    omega

/-- The copy loop from index `j`: where it ends, where the pointer ends, what it wrote. -/
theorem copyUntil_spec (stop : UInt8 → Bool) (dest : CharArray n) (j : Fin n) (pos : List UInt8) :
    let text := (pos.takeWhile fun b => !stop b).take (n - 1 - j.val)
    let out := copyUntil stop dest j pos
    out.2.1.val = j.val + text.length ∧ out.2.2 = pos.drop text.length ∧
      ∀ i (hi : i < n), out.1[i] =
        if h : j.val ≤ i ∧ i - j.val < text.length then text[i - j.val] else dest[i] := by
  induction pos generalizing dest j with
  | nil => simp [copyUntil]
  | cons b pos ih =>
    by_cases more : stop b = false ∧ j.val < n - 1
    · obtain ⟨go, room⟩ := more
      obtain ⟨index, pointer, bytes⟩ := ih (dest.set j b) ⟨j.val + 1, by omega⟩
      dsimp only at index pointer bytes
      have text : ((b :: pos).takeWhile fun b => !stop b).take (n - 1 - j.val) =
          b :: (pos.takeWhile fun b => !stop b).take (n - 1 - (j.val + 1)) := by
        rw [List.takeWhile_cons_of_pos (by simp [go]),
          show n - 1 - j.val = n - 1 - (j.val + 1) + 1 by omega, List.take_succ_cons]
      simp only [text, copyUntil_cons go room]
      refine ⟨by rw [index, List.length_cons]; omega, by rw [pointer, List.length_cons, List.drop_succ_cons],
        fun i hi => ?_⟩
      rw [bytes i hi, Vector.getElem_set]
      by_cases here : j.val = i
      · subst here
        rw [dif_neg (by omega), if_pos rfl, dif_pos ⟨Nat.le_refl _, by simp⟩]
        simp
      · by_cases inside : j.val + 1 ≤ i ∧ i - (j.val + 1) <
            ((pos.takeWhile fun b => !stop b).take (n - 1 - (j.val + 1))).length
        · rw [dif_pos inside, dif_pos ⟨by omega, by rw [List.length_cons]; omega⟩]
          have shift : i - j.val = (i - (j.val + 1)) + 1 := by omega
          simp only [shift, List.getElem_cons_succ]
        · rw [dif_neg inside, if_neg here, dif_neg]
          rintro ⟨le, lt⟩
          rw [List.length_cons] at lt
          exact inside ⟨by omega, by omega⟩
    · have done : ((b :: pos).takeWhile fun b => !stop b).take (n - 1 - j.val) = [] := by
        cases go : stop b with
        | true => simp [go]
        | false =>
          have full : ¬ j.val < n - 1 := fun room => more ⟨go, room⟩
          rw [show n - 1 - j.val = 0 by omega, List.take_zero]
      simp [done, copyUntil_stop done]

/-- **The copy loop and its terminator.** -/
theorem copyField_eq (size : 0 < n) (stop : UInt8 → Bool) (dest : CharArray n) (pos : List UInt8) :
    copyField size stop dest pos =
      (storeText dest (fieldText n stop pos), (fieldText n stop pos).length,
        pos.drop (fieldText n stop pos).length) := by
  obtain ⟨index, pointer, bytes⟩ := copyUntil_spec stop dest ⟨0, size⟩ pos
  simp only [Nat.sub_zero, Nat.zero_add] at index pointer bytes
  have index' : (copyUntil stop dest ⟨0, size⟩ pos).2.1.val = (fieldText n stop pos).length := index
  simp only [copyField, Prod.mk.injEq]
  refine ⟨?_, index', pointer⟩
  apply Vector.ext
  intro i hi
  rw [Vector.getElem_set, storeText, Vector.getElem_ofFn]
  by_cases atEnd : i = (fieldText n stop pos).length
  · simp [index', atEnd]
  · rw [if_neg (by rw [index']; exact Ne.symm atEnd), bytes i hi]
    by_cases inside : i < (fieldText n stop pos).length
    · rw [dif_pos ⟨Nat.zero_le _, inside⟩, dif_pos inside]; rfl
    · rw [dif_neg (fun h => inside h.2), dif_neg inside, if_neg atEnd]; rfl

/-! ## Stored texts -/

theorem zero_not_mem_fieldText {stop : UInt8 → Bool} {pos : List UInt8} (clean : 0 ∉ pos) :
    0 ∉ fieldText n stop pos := fun inside =>
  clean ((List.takeWhile_sublist _).subset (List.mem_of_mem_take inside))

theorem length_fieldText_lt (size : 0 < n) (stop : UInt8 → Bool) (pos : List UInt8) :
    (fieldText n stop pos).length < n := by
  have : (fieldText n stop pos).length ≤ n - 1 := List.length_take_le _ _
  omega

theorem length_fieldText_le (stop : UInt8 → Bool) (pos : List UInt8) :
    (fieldText n stop pos).length ≤ pos.length :=
  (List.length_take_le' _ _).trans (List.takeWhile_sublist _).length_le

/-- A scan does not look behind its stop byte. -/
theorem fieldText_append_stop {stop : UInt8 → Bool} {c : UInt8} (h : stop c = true)
    (a b : List UInt8) : fieldText n stop (a ++ c :: b) = fieldText n stop a := by
  rw [fieldText, fieldText, takeWhile_append_stop _ _ (by simp [h])]

theorem fieldText_whole {stop : UInt8 → Bool} {a : List UInt8} (h : ∀ b ∈ a, stop b = false) :
    fieldText n stop a = a.take (n - 1) := by
  rw [fieldText, List.takeWhile_eq_self_iff.2 fun b inside => by simp [h b inside]]

/-- A scan of a cut text takes the cut text. -/
theorem fieldText_take (stop : UInt8 → Bool) (pos : List UInt8) (k : Nat) :
    fieldText n stop (pos.take k) = (fieldText n stop pos).take k := by
  rw [fieldText, fieldText, ← List.take_takeWhile, List.take_take, List.take_take, Nat.min_comm]

/-- The front of an array that holds `text`. -/
theorem toList_storeText (dest : CharArray n) {text : List UInt8} (fits : text.length < n) :
    (storeText dest text).toList = text ++ 0 :: dest.toList.drop (text.length + 1) := by
  apply List.ext_getElem
  · simp; omega
  · intro i _ _
    simp only [storeText, Vector.getElem_toList, Vector.getElem_ofFn, List.getElem_append,
      List.getElem_cons, List.getElem_drop]
    split
    · rfl
    · rename_i past
      by_cases atEnd : i = text.length
      · simp [atEnd]
      · have shift : text.length + 1 + (i - text.length - 1) = i := by omega
        rw [if_neg atEnd, dif_neg (by omega)]
        simp only [shift]
        rfl

/-- The string read back from a field is the text stored there. -/
theorem text_storeText (dest : CharArray n) {text : List UInt8} (fits : text.length < n)
    (clean : 0 ∉ text) : (storeText dest text).text = text := by
  rw [CharArray.text, toList_storeText dest fits]
  exact takeWhile_append_all (fun b inside => by simpa using fun e : b = 0 => clean (e ▸ inside)) rfl

/-- Two stored texts give the same array only if they are the same. -/
theorem storeText_inj {dest : CharArray n} {a b : List UInt8} (fitsA : a.length < n)
    (fitsB : b.length < n) (cleanA : 0 ∉ a) (cleanB : 0 ∉ b) :
    storeText dest a = storeText dest b ↔ a = b := by
  constructor
  · intro same
    rw [← text_storeText dest fitsA cleanA, same, text_storeText dest fitsB cleanB]
  · rintro rfl; rfl

/-- Storing a text changes no byte iff the field held that text. -/
theorem storeText_eq_self_iff {dest : CharArray n} {text : List UInt8} (fits : text.length < n)
    (clean : 0 ∉ text) : storeText dest text = dest ↔ dest.text = text := by
  constructor
  · intro same
    rw [← same, text_storeText dest fits clean]
  · rintro rfl
    have parted : dest.toList.takeWhile (· != 0) ++ dest.toList.dropWhile (· != 0) = dest.toList :=
      List.takeWhile_append_dropWhile
    apply Vector.toList_inj.1
    rw [toList_storeText dest fits]
    cases rest : dest.toList.dropWhile (· != 0) with
    | nil =>
      have whole := congrArg List.length parted
      rw [rest, List.append_nil, Vector.length_toList] at whole
      exact absurd whole (Nat.ne_of_lt fits)
    | cons b rest' =>
      have nul : b = 0 := by
        have ne : dest.toList.dropWhile (· != 0) ≠ [] := by rw [rest]; simp
        simpa [rest] using List.head_dropWhile_not (· != 0) ne
      rw [rest, nul] at parted
      have behind : rest' = dest.toList.drop (dest.text.length + 1) := by
        rw [← parted, ← List.drop_drop]
        simp [CharArray.text]
      rw [← behind]
      exact parted

end SmartClock.Text
