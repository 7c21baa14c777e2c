import SmartClock.Net.Data
import SmartClock.Json.Scan

/-!
# `parse_info`

The substring scanner of `network_config.c`. Every field is looked for on its own in the
whole body: the first hit of its key pattern, then blanks, then either the bytes up to the
next quote or the bytes up to a comma, a brace or a blank. `parseInfo_get` gives the effect
on one field, `parseInfo_ready` that on the flag.
-/

namespace SmartClock.Net

open Text Json

/-- `"\"city\":"` and its siblings. -/
def InfoField.key (f : InfoField) : List UInt8 := keyPattern f.name

/-- The table of `parse_info`, in its order. -/
def fields : List InfoField :=
  [.city, .country, .weather, .temperature, .latitude, .longitude, .unixEpoch]

/-- `while (*pos == ' ' || *pos == '\t') pos++;` -/
def skipBlanks : List UInt8 → List UInt8
  | [] => []
  | b :: pos => if b = 32 ∨ b = 9 then skipBlanks pos else b :: pos

/-- The stop bytes of an unquoted value. -/
def endsBare (b : UInt8) : Bool := b == 44 || b == 125 || b == 32

/-- The stop byte of a quoted value. -/
def endsQuoted (b : UInt8) : Bool := b == 34

/-- The body of the loop of `parse_info` for one field, from behind its key: `dest` and the
pointer after it. -/
def scanValue (dest : InfoStr) (pos : List UInt8) : InfoStr × List UInt8 :=
  match skipBlanks pos with
  | 34 :: pos =>
    let (dest, _, pos) := copyField (by decide) endsQuoted dest pos
    (dest, pos)
  | pos =>
    let (dest, _, pos) := copyField (by decide) endsBare dest pos
    (dest, pos)

def parseField (json : CStr) (g : InfoData) (f : InfoField) : InfoData :=
  match find f.key json.1 with
  | none => g
  | some i => f.set (scanValue (f.get g) (json.1.drop (i + f.key.length))).1 g

/-- `parse_info`, between `info_mutex`'s lock and unlock. -/
def parseInfo (json : CStr) (g : InfoData) : InfoData :=
  { fields.foldl (parseField json) g with ready := true }

/-! ## What it stores -/

/-- The text a value scan takes from `pos`. -/
def valueText (pos : List UInt8) : List UInt8 :=
  match skipBlanks pos with
  | 34 :: pos => fieldText infoStrLen endsQuoted pos
  | pos => fieldText infoStrLen endsBare pos

/-- The pointer behind a value scan. -/
def valueEnd (pos : List UInt8) : List UInt8 :=
  match skipBlanks pos with
  | 34 :: pos => pos.drop (fieldText infoStrLen endsQuoted pos).length
  | pos => pos.drop (fieldText infoStrLen endsBare pos).length

theorem scanValue_eq (dest : InfoStr) (pos : List UInt8) :
    scanValue dest pos = (storeText dest (valueText pos), valueEnd pos) := by
  unfold scanValue valueText valueEnd
  split <;> simp only [copyField_eq]

theorem valueText_quoted {pos rest : List UInt8} (h : skipBlanks pos = 34 :: rest) :
    valueText pos = fieldText infoStrLen endsQuoted rest ∧
      valueEnd pos = rest.drop (fieldText infoStrLen endsQuoted rest).length := by
  simp only [valueText, valueEnd, h, and_self]

theorem valueText_bare {pos : List UInt8} (h : ∀ rest, skipBlanks pos ≠ 34 :: rest) :
    valueText pos = fieldText infoStrLen endsBare (skipBlanks pos) ∧
      valueEnd pos = (skipBlanks pos).drop (fieldText infoStrLen endsBare (skipBlanks pos)).length := by
  unfold valueText valueEnd
  split
  · rename_i rest eq
    exact absurd eq (h rest)
  · exact ⟨rfl, rfl⟩

theorem skipBlanks_cons {b : UInt8} (pos : List UInt8) (h : b ≠ 32 ∧ b ≠ 9) :
    skipBlanks (b :: pos) = b :: pos := by
  simp [skipBlanks, h]

/-- The text `parse_info` takes for field `f` from a body, if it holds the key. -/
def scanned (f : InfoField) (json : List UInt8) : Option (List UInt8) :=
  (find f.key json).map fun i => valueText (json.drop (i + f.key.length))

theorem parseField_eq (json : CStr) (g : InfoData) (f : InfoField) :
    parseField json g f = match scanned f json.1 with
      | none => g
      | some text => f.set (storeText (f.get g) text) g := by
  unfold parseField scanned
  cases find f.key json.1 with
  | none => rfl
  | some i => simp only [Option.map_some, scanValue_eq]

theorem get_parseField_self (json : CStr) (g : InfoData) (f : InfoField) :
    f.get (parseField json g f) = match scanned f json.1 with
      | none => f.get g
      | some text => storeText (f.get g) text := by
  rw [parseField_eq]
  cases scanned f json.1 <;> simp

theorem get_parseField_other {f f' : InfoField} (other : f ≠ f') (json : CStr) (g : InfoData) :
    f'.get (parseField json g f) = f'.get g := by
  rw [parseField_eq]
  cases scanned f json.1 with
  | none => rfl
  | some text => exact InfoField.get_set_other other _ g

/-- Each field is written once, from what it held before. -/
theorem get_foldl_parseField (json : CStr) (f : InfoField) {fs : List InfoField} (distinct : fs.Nodup)
    (g : InfoData) : f.get (fs.foldl (parseField json) g) =
      if f ∈ fs then f.get (parseField json g f) else f.get g := by
  induction fs generalizing g with
  | nil => rfl
  | cons f' fs ih =>
    obtain ⟨fresh, distinct⟩ := List.nodup_cons.1 distinct
    rw [List.foldl_cons, ih distinct]
    by_cases same : f' = f
    · subst same
      rw [if_neg fresh, if_pos List.mem_cons_self]
    · have before := get_parseField_other same json g
      have self : f.get (parseField json (parseField json g f') f) = f.get (parseField json g f) := by
        rw [get_parseField_self, get_parseField_self, before]
      rw [self, before]
      simp [Ne.symm same]

/-- **One field after `parse_info`**: the text scanned for it over what it held, or what it
held. -/
theorem parseInfo_get (json : CStr) (g : InfoData) (f : InfoField) :
    f.get (parseInfo json g) = match scanned f json.1 with
      | none => f.get g
      | some text => storeText (f.get g) text := by
  have distinct : fields.Nodup := by decide
  have all : f ∈ fields := by cases f <;> decide
  have unflagged : f.get (parseInfo json g) = f.get (fields.foldl (parseField json) g) := by
    cases f <;> rfl
  rw [unflagged, get_foldl_parseField json f distinct, if_pos all, get_parseField_self]

theorem parseInfo_ready (json : CStr) (g : InfoData) : (parseInfo json g).ready = true := rfl

theorem skipBlanks_sublist (pos : List UInt8) : (skipBlanks pos).Sublist pos := by
  induction pos with
  | nil => exact List.Sublist.refl _
  | cons b pos ih =>
    unfold skipBlanks
    split
    · exact ih.cons b
    · exact List.Sublist.refl _

/-- A value's text is a string that fits its field. -/
theorem valueText_ok {pos : List UInt8} (clean : 0 ∉ pos) :
    0 ∉ valueText pos ∧ (valueText pos).length < infoStrLen := by
  have skipped : 0 ∉ skipBlanks pos := fun inside => clean ((skipBlanks_sublist pos).subset inside)
  unfold valueText
  split
  · rename_i rest eq
    rw [eq] at skipped
    exact ⟨zero_not_mem_fieldText fun inside => skipped (List.mem_cons_of_mem _ inside),
      length_fieldText_lt (by decide) _ _⟩
  · exact ⟨zero_not_mem_fieldText skipped, length_fieldText_lt (by decide) _ _⟩

theorem scanned_ok {f : InfoField} {json text : List UInt8} (clean : 0 ∉ json)
    (h : scanned f json = some text) : 0 ∉ text ∧ text.length < infoStrLen := by
  obtain ⟨i, -, rfl⟩ := Option.map_eq_some_iff.1 h
  exact valueText_ok fun inside => clean (List.mem_of_mem_drop inside)

/-! ## Cut bodies -/

/-- The blanks in front of a value, and its quote. -/
def textOffset : List UInt8 → Nat
  | [] => 0
  | b :: pos => if b = 32 ∨ b = 9 then textOffset pos + 1 else if b = 34 then 1 else 0

/-- The scan of a cut text takes what is left of the value's text. -/
theorem valueText_take (pos : List UInt8) (k : Nat) :
    valueText (pos.take k) = (valueText pos).take (k - textOffset pos) := by
  induction pos generalizing k with
  | nil => simp [valueText, skipBlanks, fieldText]
  | cons b pos ih =>
    cases k with
    | zero => simp [valueText, skipBlanks, fieldText]
    | succ k =>
      rw [List.take_succ_cons, textOffset]
      by_cases blank : b = 32 ∨ b = 9
      · have skip (rest : List UInt8) : valueText (b :: rest) = valueText rest := by
          unfold valueText
          rw [skipBlanks, if_pos blank]
        rw [if_pos blank, skip, skip, ih, Nat.add_sub_add_right]
      · have stay (rest : List UInt8) : skipBlanks (b :: rest) = b :: rest := by
          rw [skipBlanks, if_neg blank]
        rw [if_neg blank]
        by_cases quoted : b = 34
        · subst quoted
          rw [if_pos rfl, (valueText_quoted (stay _)).1, (valueText_quoted (stay _)).1, fieldText_take]
          rfl
        · have unquoted (rest : List UInt8) : ∀ more, skipBlanks (b :: rest) ≠ 34 :: more := by
            intro more opens
            rw [stay] at opens
            exact quoted (List.cons.inj opens).1
          rw [if_neg quoted, (valueText_bare (unquoted _)).1, (valueText_bare (unquoted _)).1, stay, stay,
            ← List.take_succ_cons, fieldText_take]
          rfl

/-- Where a body has a field's member: the offset behind its key, the offset of its text, the
text. -/
structure Located where
  keyEnd : Nat
  textStart : Nat
  text : List UInt8

/-- The member that the scan for a field finds. -/
def InfoField.located (f : InfoField) (json : List UInt8) : Option Located :=
  (find f.key json).map fun i =>
    let keyEnd := i + f.key.length
    { keyEnd, textStart := keyEnd + textOffset (json.drop keyEnd), text := valueText (json.drop keyEnd) }

theorem scanned_eq (f : InfoField) (json : List UInt8) : scanned f json = (f.located json).map (·.text) := by
  rw [scanned, InfoField.located, Option.map_map]
  rfl

/-- **A field's text in a cut body**: none before its key has arrived, then what has arrived
of it. -/
theorem scanned_take (f : InfoField) (json : List UInt8) (q : Nat) :
    scanned f (json.take q) = (f.located json).bind fun m =>
      if m.keyEnd ≤ q then some (m.text.take (q - m.textStart)) else none := by
  have ne : f.key ≠ [] := keyPattern_ne_nil _
  rw [scanned, find_take ne, InfoField.located]
  cases find f.key json with
  | none => rfl
  | some i =>
    rw [Option.map_some, Option.bind_some]
    dsimp only
    by_cases arrived : i + f.key.length ≤ q
    · rw [Option.filter_some_pos (by simpa using arrived), if_pos arrived, Option.map_some, List.drop_take,
        valueText_take, Nat.sub_sub]
    · rw [Option.filter_some_neg (by simpa using arrived), if_neg arrived, Option.map_none]

end SmartClock.Net
