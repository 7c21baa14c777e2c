import SmartClock.Net.Snapshot
import SmartClock.Net.TitleScanner

/-!
# `parse_info`, access by access

The function between the lock and the unlock as a program over memory: the table with its
sentinel, the body and its terminator, an index into each, and the members of `g_info`. A read
behind the sentinel or the terminator and a store outside a member fault. The program halts for
every body, with what `parseInfo` computes (`infoScan_halts`), and so without a fault.
-/

namespace SmartClock.Net

open Text Json Run

/-- The statements of `parse_info`. -/
inductive InfoScanPc where
  /-- `fields[i].key != NULL`, `strstr` and `pos += strlen(fields[i].key)` -/
  | row
  /-- the loop over blanks -/
  | blanks
  /-- `int j = 0; if (*pos == '"') pos++;` -/
  | opening
  /-- one of the two loops that copy the value -/
  | copy (quoted : Bool)
  /-- `fields[i].dest[j] = '\0';` -/
  | terminate
  /-- `g_info.ready = true;` -/
  | ready
  | done
deriving DecidableEq

structure InfoScanState where
  pc : InfoScanPc
  i : Nat
  pos : Nat
  j : Nat
  g : InfoData

/-- `fields`, with `{NULL, NULL}` at its end. -/
def fieldTable : List (Option InfoField) := fields.map some ++ [none]

/-- The stop bytes of the two copy loops, beside the NUL. -/
def stopBytes (quoted : Bool) : UInt8 → Bool := if quoted then endsQuoted else endsBare

/-- `fields[i].dest[j] = b;` -/
def storeInfo (g : InfoData) (i j : Nat) (b : UInt8) : Option InfoData :=
  fields[i]?.bind fun f => if h : j < infoStrLen then some (f.write ⟨j, h⟩ b g) else none

section Scan

variable (mem : List UInt8)

/-- One statement, or one round of a loop. -/
def infoScanStep : InfoScanState → StepOutcome InfoScanState
  | ⟨.row, i, pos, j, g⟩ =>
    .checked (fieldTable[i]?.bind fun
      | none => some ⟨.ready, i, pos, j, g⟩
      | some f => (cstr mem).map fun text =>
        match find f.key text.1 with
        | none => ⟨.row, i + 1, pos, j, g⟩
        | some k => ⟨.blanks, i, k + f.key.length, j, g⟩)
  | ⟨.blanks, i, pos, j, g⟩ =>
    .checked (mem[pos]?.map fun b =>
      if b = 32 ∨ b = 9 then ⟨.blanks, i, pos + 1, j, g⟩ else ⟨.opening, i, pos, j, g⟩)
  | ⟨.opening, i, pos, _, g⟩ =>
    .checked (mem[pos]?.map fun b =>
      if b = 34 then ⟨.copy true, i, pos + 1, 0, g⟩ else ⟨.copy false, i, pos, 0, g⟩)
  | ⟨.copy quoted, i, pos, j, g⟩ =>
    .checked (mem[pos]?.bind fun b =>
      if b ≠ 0 ∧ stopBytes quoted b = false ∧ j < infoStrLen - 1 then
        (storeInfo g i j b).map fun g => ⟨.copy quoted, i, pos + 1, j + 1, g⟩
      else some ⟨.terminate, i, pos, j, g⟩)
  | ⟨.terminate, i, pos, j, g⟩ => .checked ((storeInfo g i j 0).map fun g => ⟨.row, i + 1, pos, j, g⟩)
  | ⟨.ready, i, pos, j, g⟩ => .next ⟨.done, i, pos, j, { g with ready := true }⟩
  | ⟨.done, _, _, _, _⟩ => .halt

end Scan

/-- Where the function starts. -/
def infoScanStart (g : InfoData) : InfoScanState := ⟨.row, 0, 0, 0, g⟩

/-! ## The statements -/

section Scan

variable {json : CStr} {pos i j : Nat} {text : List UInt8} {g : InfoData} {f : InfoField}

/-- The loop over blanks. -/
theorem infoBlanks_leads (h : At json pos text) :
    ∃ pos', At json pos' (skipBlanks text) ∧
      Leads (infoScanStep (memory json)) ⟨.blanks, i, pos, j, g⟩ ⟨.opening, i, pos', j, g⟩ := by
  induction text generalizing pos with
  | nil =>
    refine ⟨pos, h, .one ?_⟩
    rw [infoScanStep, h.read]
    rfl
  | cons b text ih =>
    have read := h.read
    rw [List.headD_cons] at read
    by_cases blank : b = 32 ∨ b = 9
    · obtain ⟨pos', stands, ran⟩ := ih h.next
      rw [skipBlanks, if_pos blank]
      refine ⟨pos', stands, .step ?_ ran⟩
      rw [infoScanStep, read, Option.map_some, if_pos blank]
      rfl
    · rw [skipBlanks, if_neg blank]
      refine ⟨pos, h, .one ?_⟩
      rw [infoScanStep, read, Option.map_some, if_neg blank]
      rfl

/-- The quote decides on the loop, as `valueStart` says. -/
theorem infoOpening_leads (h : At json pos (skipBlanks text)) :
    ∃ pos' quoted, At json pos' (valueStart text).2 ∧ stopBytes quoted = (valueStart text).1 ∧
      Leads (infoScanStep (memory json)) ⟨.opening, i, pos, j, g⟩ ⟨.copy quoted, i, pos', 0, g⟩ := by
  unfold valueStart
  generalize skipBlanks text = text at h
  have read := h.read
  cases text with
  | nil =>
    refine ⟨pos, false, h, rfl, .one ?_⟩
    rw [infoScanStep, read]
    rfl
  | cons b text =>
    rw [List.headD_cons] at read
    by_cases quote : b = 34
    · subst quote
      refine ⟨pos + 1, true, h.next, rfl, .one ?_⟩
      rw [infoScanStep, read]
      rfl
    · refine ⟨pos, false, ?_, ?_, .one ?_⟩
      · split
        · rename_i opens
          exact absurd (List.cons.inj opens).1 quote
        · exact h
      · split
        · rename_i opens
          exact absurd (List.cons.inj opens).1 quote
        · rfl
      · rw [infoScanStep, read, Option.map_some, if_neg quote]
        rfl

/-- A store inside a member. -/
theorem storeInfo_eq (row : fields[i]? = some f) (col : Fin infoStrLen) (b : UInt8) :
    storeInfo g i col b = some (f.write col b g) := by
  rw [storeInfo, row, Option.bind_some, dif_pos col.isLt]

theorem InfoField.set_get_self (f : InfoField) (g : InfoData) : f.set (f.get g) g = g := by
  cases f <;> rfl

/-- The copy loops write the member as `copyUntil` does. -/
theorem infoCopy_leads (h : At json pos text) (row : fields[i]? = some f) (quoted : Bool)
    (col : Fin infoStrLen) :
    let out := copyUntil (stopBytes quoted) (f.get g) col text
    ∃ pos', Leads (infoScanStep (memory json)) ⟨.copy quoted, i, pos, col, g⟩
      ⟨.terminate, i, pos', out.2.1, f.set out.1 g⟩ := by
  induction text generalizing pos col g with
  | nil =>
    dsimp only [copyUntil]
    rw [f.set_get_self]
    refine ⟨pos, .one ?_⟩
    rw [infoScanStep, h.read]
    rfl
  | cons b text ih =>
    have read := h.read
    rw [List.headD_cons] at read
    have nonzero : b ≠ 0 := by
      rintro rfl
      exact h.clean List.mem_cons_self
    by_cases more : stopBytes quoted b = false ∧ col.val < infoStrLen - 1
    · have go : infoScanStep (memory json) ⟨.copy quoted, i, pos, col, g⟩ =
          .next ⟨.copy quoted, i, pos + 1, col + 1, f.write col b g⟩ := by
        rw [infoScanStep, read, Option.bind_some, if_pos ⟨nonzero, more⟩, storeInfo_eq row col b]
        rfl
      obtain ⟨pos', ran⟩ := @ih (pos + 1) (f.write col b g) h.next
        ⟨col.val + 1, Nat.add_lt_of_lt_sub more.2⟩
      simp only [InfoField.get_write, InfoField.set_write] at ran
      dsimp only
      rw [copyUntil_cons more.1 more.2]
      exact ⟨pos', .step go ran⟩
    · have stop : copyUntil (stopBytes quoted) (f.get g) col (b :: text) = (f.get g, col, b :: text) := by
        rw [copyUntil, dif_neg more]
      dsimp only
      rw [stop]
      dsimp only
      rw [f.set_get_self]
      refine ⟨pos, .one ?_⟩
      rw [infoScanStep, read, Option.bind_some, if_neg fun all => more all.2]
      rfl

theorem InfoField.write_set (f : InfoField) (col : Fin infoStrLen) (b : UInt8) (v : InfoStr) (g : InfoData) :
    f.write col b (f.set v g) = f.set (v.set col b col.isLt) g := by
  cases f <;> rfl

/-- The terminator behind the copied bytes. -/
theorem infoTerminate_leads (row : fields[i]? = some f) (col : Fin infoStrLen) (v : InfoStr) :
    Leads (infoScanStep (memory json)) ⟨.terminate, i, pos, col, f.set v g⟩
      ⟨.row, i + 1, pos, col, f.set (v.set col 0 col.isLt) g⟩ := by
  apply Leads.one
  rw [infoScanStep, storeInfo_eq row, f.write_set]
  rfl

/-! ## Rows of the table -/

theorem fieldTable_row (row : fields[i]? = some f) : fieldTable[i]? = some (some f) := by
  have inside : i < fields.length := (List.getElem?_eq_some_iff.1 row).1
  rw [fieldTable, List.getElem?_append_left (by rwa [List.length_map]), List.getElem?_map, row]
  rfl

theorem string_start (json : CStr) : cstr (memory json) = some json := by
  have start : At json 0 json.1 := ⟨Nat.zero_le _, rfl⟩
  exact start.string

/-- A pass of the loop over the table. -/
theorem infoRow_leads (row : fields[i]? = some f) :
    ∃ pos' j', Leads (infoScanStep (memory json)) ⟨.row, i, pos, j, g⟩
      ⟨.row, i + 1, pos', j', parseField json g f⟩ := by
  cases hit : find f.key json.1 with
  | none =>
    have same : parseField json g f = g := by rw [parseField, hit]
    rw [same]
    refine ⟨pos, j, .one ?_⟩
    rw [infoScanStep, fieldTable_row row, Option.bind_some, string_start]
    simp only [Option.map_some, hit]
    rfl
  | some k =>
    have found : infoScanStep (memory json) ⟨.row, i, pos, j, g⟩ =
        .next ⟨.blanks, i, k + f.key.length, j, g⟩ := by
      rw [infoScanStep, fieldTable_row row, Option.bind_some, string_start]
      simp only [Option.map_some, hit]
      rfl
    have stands : At json (k + f.key.length) (json.1.drop (k + f.key.length)) := ⟨find_le hit, rfl⟩
    have parsed : parseField json g f =
        f.set (scanValue (f.get g) (json.1.drop (k + f.key.length))).1 g := by rw [parseField, hit]
    rw [parsed]
    generalize json.1.drop (k + f.key.length) = value at stands
    obtain ⟨pos₁, stands₁, ran₁⟩ := @infoBlanks_leads json _ i j value g stands
    obtain ⟨pos₂, quoted, stands₂, stops, ran₂⟩ := @infoOpening_leads json pos₁ i j value g stands₁
    obtain ⟨pos₃, ran₃⟩ := @infoCopy_leads json pos₂ i _ g f stands₂ row quoted ⟨0, infoStrLen_pos⟩
    let out := copyUntil (stopBytes quoted) (f.get g) ⟨0, infoStrLen_pos⟩ (valueStart value).2
    have ran₄ := @infoTerminate_leads json pos₃ i g f row out.2.1 out.1
    refine ⟨pos₃, out.2.1, .step found (ran₁.trans (ran₂.trans (ran₃.trans ?_)))⟩
    rw [scanValue_start infoStrLen_pos, ← stops]
    exact ran₄

/-- The loop over the rest of the table, up to the sentinel. -/
theorem infoRows_leads {rest : List InfoField} (inside : i ≤ fields.length) (left : fields.drop i = rest) :
    ∃ i' pos' j', Leads (infoScanStep (memory json)) ⟨.row, i, pos, j, g⟩
      ⟨.ready, i', pos', j', rest.foldl (parseField json) g⟩ := by
  induction rest generalizing i pos j g with
  | nil =>
    have sentinel : i = fields.length := Nat.le_antisymm inside (List.drop_eq_nil_iff.1 left)
    refine ⟨i, pos, j, .one ?_⟩
    rw [infoScanStep, sentinel]
    rfl
  | cons f rest ih =>
    have row : fields[i]? = some f := by
      rw [← List.head?_drop, left]
      rfl
    have next : fields.drop (i + 1) = rest := by
      rw [← List.tail_drop, left]
      rfl
    have below : i < fields.length := (List.getElem?_eq_some_iff.1 row).1
    obtain ⟨pos₁, j₁, ran₁⟩ := @infoRow_leads json pos i j g f row
    obtain ⟨i₂, pos₂, j₂, ran₂⟩ := @ih pos₁ (i + 1) j₁ (parseField json g f) below next
    exact ⟨i₂, pos₂, j₂, ran₁.trans ran₂⟩

/-- The program halts with what `parseInfo` computes. -/
theorem infoScan_halts (json : CStr) (g : InfoData) :
    ∃ final, Halts (infoScanStep (memory json)) (infoScanStart g) final ∧ final.pc = .done ∧
      final.g = parseInfo json g := by
  obtain ⟨i, pos, j, ran⟩ := @infoRows_leads json 0 0 0 g fields (Nat.zero_le _) rfl
  exact ⟨⟨.done, i, pos, j, parseInfo json g⟩, ⟨ran.trans (.one rfl), rfl⟩, rfl, rfl⟩

end Scan

/-- **`parse_info` is safe on arbitrary bytes.** For every body, well-formed or cut anywhere, and
every `g_info` before, it halts and faults in none of its steps. Behind it the flag is set, and a
member is what it was, if its key does not occur, or a string of at most 31 bytes with its
terminator inside the member. -/
theorem parseInfo_safe (json : CStr) (g : InfoData) :
    ∃ final, Halts (infoScanStep (memory json)) (infoScanStart g) final ∧ final.pc = .done ∧
      (∀ s, Leads (infoScanStep (memory json)) (infoScanStart g) s →
        infoScanStep (memory json) s ≠ .fault) ∧
      final.g = parseInfo json g ∧ final.g.ready = true ∧
      ∀ f : InfoField,
        (find f.key json.1 = none → f.get final.g = f.get g) ∧
        (find f.key json.1 ≠ none →
          (f.get final.g).text.length < infoStrLen ∧ ∃ i, (f.get final.g).get i = 0) := by
  obtain ⟨final, halts, finished, result⟩ := infoScan_halts json g
  refine ⟨final, halts, finished, fun s reached => halts.no_fault reached, result, ?_, ?_⟩
  · rw [result]
    exact parseInfo_ready json g
  · intro f
    rw [result, parseInfo_get]
    cases found : scanned f json.1 with
    | none =>
      have missing : find f.key json.1 = none := Option.map_eq_none_iff.1 found
      exact ⟨fun _ => rfl, fun hit => absurd missing hit⟩
    | some text =>
      obtain ⟨clean, fits⟩ := scanned_ok json.2 found
      refine ⟨?_, ?_⟩
      · intro missing
        rw [scanned, missing] at found
        cases found
      · intro _
        refine ⟨by rwa [text_storeText _ fits clean], ⟨text.length, fits⟩, ?_⟩
        show (storeText (f.get g) text)[text.length] = 0
        simp [storeText]

end SmartClock.Net
