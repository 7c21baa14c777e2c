import SmartClock.Net.InfoMembers

/-!
# Decoding an encoded `/info` answer

`parse_info` copies the bytes of a JSON string without undoing its escapes. So a text comes
back from its field only if it needs no escape, with one exception: an escaped backslash is
two backslashes, and a text of 31 bytes that ends in backslashes is cut just where the
second halves begin (`Survives`).
-/

namespace SmartClock.Net

open Text Json Proxy

/-- A text that comes back from a field of `room` bytes: characters that need no escape, then
either nothing or backslashes up to the last byte. -/
def SurvivesIn (room : Nat) (s : List Char) : Prop :=
  ∃ front k, s = front ++ List.replicate k '\\' ∧ (∀ c ∈ front, plain (codePoint c) = true) ∧
    (k = 0 ∨ front.length + k = room)

def Survives (s : String) : Prop := SurvivesIn (infoStrLen - 1) s.toList

/-! ## One character -/

theorem plain_toNat {c : Char} (h : plain (codePoint c) = true) :
    0x20 ≤ c.toNat ∧ c.toNat ≤ 0x7e ∧ c.toNat ≠ 34 ∧ c.toNat ≠ 92 := plain_iff.1 h

theorem plain_ne_backslash {c : Char} (h : plain (codePoint c) = true) : c ≠ '\\' := by
  rintro rfl
  exact absurd h (by decide)

/-- A plain character is one byte on both sides. -/
theorem utf8_plain {c : Char} (h : plain (codePoint c) = true) :
    String.utf8EncodeChar c = [c.toNat.toUInt8] := by
  obtain ⟨-, high, -, -⟩ := plain_toNat h
  have low : c.val.toNat ≤ 0x7f := by
    show c.toNat ≤ 0x7f
    omega
  rw [String.utf8EncodeChar, if_pos low]
  rfl

/-- Only a backslash's UTF-8 form begins with the byte of a backslash. -/
theorem utf8_backslash {c : Char} {rest : List UInt8} (h : String.utf8EncodeChar c = 92 :: rest) :
    c = '\\' := by
  have byte : ∀ n : Nat, UInt8.ofNat n = 92 → n % 256 = 92 := by
    intro n e
    have := congrArg UInt8.toNat e
    simpa using this
  unfold String.utf8EncodeChar at h
  dsimp only at h
  split at h
  · have value := byte _ (List.cons.inj h).1
    have small : c.val.toNat ≤ 0x7f := by assumption
    apply Char.ext
    apply UInt32.toNat_inj.1
    show c.val.toNat = 92
    omega
  · split at h
    · have := byte _ (List.cons.inj h).1
      omega
    · split at h
      · have := byte _ (List.cons.inj h).1
        omega
      · have := byte _ (List.cons.inj h).1
        omega

/-! ## Whole texts -/

/-- What a scan without bound takes from an escaped text. -/
def unquoted (s : List Char) : List UInt8 :=
  (escape (s.map codePoint)).takeWhile fun b => !endsQuoted b

def utf8Bytes (s : List Char) : List UInt8 := s.flatMap String.utf8EncodeChar

theorem unquoted_plain {c : Char} (h : plain (codePoint c) = true) (s : List Char) :
    unquoted (c :: s) = c.toNat.toUInt8 :: unquoted s := by
  have notQuote : endsQuoted c.toNat.toUInt8 = false := beq_eq_false_iff_ne.2 (plain_byte h).2.1
  rw [unquoted, List.map_cons, escape_cons, escapeChar_plain h]
  exact List.takeWhile_cons_of_pos (by rw [show (codePoint c).val = c.toNat from rfl, notQuote]; rfl)

theorem unquoted_backslash (s : List Char) : unquoted ('\\' :: s) = 92 :: 92 :: unquoted s := rfl

/-- An escaped character leaves at least a backslash. -/
theorem unquoted_escaped {c : Char} (h : plain (codePoint c) = false) (s : List Char) :
    ∃ rest, unquoted (c :: s) = 92 :: rest := by
  obtain ⟨x, rest, eq, -⟩ := escapeChar_escaped h
  rw [unquoted, List.map_cons, escape_cons, eq]
  exact ⟨_, List.takeWhile_cons_of_pos (by decide)⟩

/-- Behind an odd backslash a text comes back iff it is all backslashes and fills the room. -/
theorem take_backslashes (s : List Char) (pending room : Nat) (fits : (utf8Bytes s).length ≤ room) :
    (List.replicate (pending + 1) 92 ++ unquoted s).take room = utf8Bytes s ↔
      s = List.replicate room '\\' := by
  induction s generalizing pending room with
  | nil =>
    cases room with
    | zero => simp [utf8Bytes]
    | succ room => simp [utf8Bytes, List.replicate_succ]
  | cons c s ih =>
    obtain ⟨b, more, bytes⟩ := List.exists_cons_of_ne_nil (String.utf8EncodeChar_ne_nil (c := c))
    have text : utf8Bytes (c :: s) = b :: (more ++ utf8Bytes s) := by simp [utf8Bytes, bytes]
    cases room with
    | zero => rw [text] at fits; cases fits
    | succ room =>
      rw [List.replicate_succ, List.cons_append, List.take_succ_cons, List.replicate_succ]
      by_cases backslash : c = '\\'
      · subst backslash
        have whole : utf8Bytes ('\\' :: s) = 92 :: utf8Bytes s := rfl
        have fits' : (utf8Bytes s).length ≤ room := by
          rw [whole, List.length_cons] at fits
          omega
        have pairs : List.replicate pending 92 ++ unquoted ('\\' :: s) =
            List.replicate (pending + 1 + 1) 92 ++ unquoted s := by
          rw [unquoted_backslash, List.append_cons, List.append_cons, ← List.replicate_succ',
            ← List.replicate_succ']
        rw [whole, pairs, List.cons.injEq, List.cons.injEq, ih (pending + 1) room fits']
        simp
      · constructor
        · intro same
          rw [text] at same
          have first : String.utf8EncodeChar c = 92 :: more := by rw [bytes, (List.cons.inj same).1]
          exact absurd (utf8_backslash first) backslash
        · intro same
          exact absurd (List.cons.inj same).1 backslash

theorem survivesIn_nil (room : Nat) : SurvivesIn room [] := ⟨[], 0, rfl, nofun, .inl rfl⟩

theorem survivesIn_cons_plain {c : Char} (h : plain (codePoint c) = true) (room : Nat) (s : List Char) :
    SurvivesIn (room + 1) (c :: s) ↔ SurvivesIn room s := by
  constructor
  · rintro ⟨front, k, eq, allPlain, fills⟩
    cases front with
    | nil =>
      cases k with
      | zero => cases eq
      | succ k => exact absurd (List.cons.inj eq).1 (plain_ne_backslash h)
    | cons d front =>
      refine ⟨front, k, (List.cons.inj eq).2, fun x inside => allPlain x (List.mem_cons_of_mem _ inside), ?_⟩
      rw [List.length_cons] at fills
      omega
  · rintro ⟨front, k, rfl, allPlain, fills⟩
    refine ⟨c :: front, k, rfl, ?_, by rw [List.length_cons]; omega⟩
    exact List.forall_mem_cons.2 ⟨h, allPlain⟩

/-- A text that begins with an escaped character survives iff it is all backslashes. -/
theorem survivesIn_cons_escaped {c : Char} (h : plain (codePoint c) = false) (room : Nat) (s : List Char) :
    SurvivesIn room (c :: s) ↔ c :: s = List.replicate room '\\' := by
  constructor
  · rintro ⟨front, k, eq, allPlain, fills⟩
    cases front with
    | nil =>
      rcases fills with rfl | full
      · cases eq
      · rw [List.length_nil, Nat.zero_add] at full
        rw [eq, full, List.nil_append]
    | cons d front =>
      have isPlain := allPlain d List.mem_cons_self
      rw [← (List.cons.inj eq).1, h] at isPlain
      cases isPlain
  · intro eq
    exact ⟨[], room, eq, nofun, .inr (Nat.zero_add _)⟩

/-- **A text comes back** from a field with room for it iff it survives. -/
theorem take_unquoted_iff (s : List Char) (room : Nat) (fits : (utf8Bytes s).length ≤ room) :
    (unquoted s).take room = utf8Bytes s ↔ SurvivesIn room s := by
  induction s generalizing room with
  | nil => simp [unquoted, utf8Bytes, escape, survivesIn_nil]
  | cons c s ih =>
    cases h : plain (codePoint c) with
    | true =>
      have whole : utf8Bytes (c :: s) = c.toNat.toUInt8 :: utf8Bytes s := by
        simp [utf8Bytes, utf8_plain h]
      rw [whole, List.length_cons] at fits
      obtain ⟨room, rfl⟩ : ∃ r, room = r + 1 := ⟨room - 1, by omega⟩
      rw [unquoted_plain h, whole, List.take_succ_cons, survivesIn_cons_plain h, ← ih room (by omega)]
      simp
    | false =>
      rw [survivesIn_cons_escaped h]
      by_cases backslash : c = '\\'
      · subst backslash
        have whole : utf8Bytes ('\\' :: s) = 92 :: utf8Bytes s := rfl
        rw [whole, List.length_cons] at fits
        obtain ⟨room, rfl⟩ : ∃ r, room = r + 1 := ⟨room - 1, by omega⟩
        have rest := take_backslashes s 0 room (by omega)
        rw [unquoted_backslash, whole, List.take_succ_cons, List.cons.injEq, List.replicate_succ,
          List.cons.injEq, ← rest]
        simp
      · obtain ⟨b, more, bytes⟩ := List.exists_cons_of_ne_nil (String.utf8EncodeChar_ne_nil (c := c))
        have text : utf8Bytes (c :: s) = b :: (more ++ utf8Bytes s) := by simp [utf8Bytes, bytes]
        rw [text, List.length_cons] at fits
        obtain ⟨room, rfl⟩ : ∃ r, room = r + 1 := ⟨room - 1, by omega⟩
        obtain ⟨rest, opens⟩ := unquoted_escaped h s
        rw [opens, text, List.take_succ_cons]
        constructor
        · intro same
          have first : String.utf8EncodeChar c = 92 :: more := by rw [bytes, (List.cons.inj same).1]
          exact absurd (utf8_backslash first) backslash
        · intro same
          exact absurd (List.cons.inj same).1 backslash

/-! ## The seven fields -/

/-- What a member of `data` reports: a text, or a number by its literal. -/
inductive Datum where
  | text (s : String)
  | number (n : Number)

namespace Datum

def value : Datum → Value
  | text s => .str (str s)
  | number n => .num n

def bytes : Datum → List UInt8
  | text s => utf8 s
  | number n => n.text

/-- What must hold for a datum to come back. -/
def Survives : Datum → Prop
  | text s => Net.Survives s
  | number _ => True

theorem shown_iff (x : Datum) (fits : x.bytes.length ≤ infoStrLen - 1) :
    shown x.value = x.bytes ↔ x.Survives := by
  cases x with
  | text s => exact take_unquoted_iff s.toList (infoStrLen - 1) fits
  | number n =>
    have whole : shown (number n).value = (number n).bytes := List.take_of_length_le fits
    exact ⟨fun _ => trivial, fun _ => whole⟩

end Datum

/-- **Decoding undoes encoding iff every text survives.** The seven members of `data` report
texts and numbers that fit their fields; the other members are arbitrary. -/
theorem info_round_trip_iff {d : InfoDict} (flat : d.Flat) {report : InfoField → Datum}
    (reports : ∀ f, f.value d = (report f).value)
    (fits : ∀ f, (report f).bytes.length ≤ infoStrLen - 1) (g : InfoData) :
    (∀ f : InfoField, (f.get (parseInfo (encoded d.toValue) g)).text = (report f).bytes) ↔
      ∀ f, (report f).Survives := by
  refine forall_congr' fun f => ?_
  rw [text_parseInfo flat, reports f]
  exact (report f).shown_iff (fits f)

/-- What the answer for Oslo reports. -/
def osloReport : InfoField → Datum
  | .city => .text "Oslo"
  | .country => .text "Norway"
  | .weather => .text "Clouds"
  | .temperature => .number osloDegrees
  | .latitude => .text "59.91273"
  | .longitude => .text "10.74609"
  | .unixEpoch => .number (.ofNat 1747000000)

theorem info_round_trip_oslo :
    (fun f : InfoField => (f.get (parseInfo (encoded oslo.toValue) gInfo)).text) =
      fun f => (osloReport f).bytes := by
  have flat : oslo.Flat := by unfold InfoDict.Flat; decide
  have all {s : String} (h : s.toList.all (fun c => plain (codePoint c)) = true) :
      (Datum.text s).Survives :=
    ⟨s.toList, 0, by simp, List.all_eq_true.1 h, .inl rfl⟩
  refine funext ((info_round_trip_iff flat (by rintro ⟨⟩ <;> rfl) (by rintro ⟨⟩ <;> decide) gInfo).2 ?_)
  rintro ⟨⟩
  · exact all (by decide)
  · exact all (by decide)
  · exact all (by decide)
  · exact trivial
  · exact all (by decide)
  · exact all (by decide)
  · exact trivial

/-- The answer for Tromsø: its last letter is stored as the six bytes of its escape. -/
def tromso : InfoDict := { oslo with city := .str (str "Tromsø") }

theorem tromso_not_decoded :
    tromso.Flat ∧ InfoField.city.value tromso = .str (str "Tromsø") ∧ (utf8 "Tromsø").length ≤ 31 ∧
      (InfoField.city.get (parseInfo (encoded tromso.toValue) gInfo)).text = ascii "Troms\\u00f8" ∧
      (InfoField.city.get (parseInfo (encoded tromso.toValue) gInfo)).text ≠ utf8 "Tromsø" := by
  have flat : tromso.Flat := by unfold InfoDict.Flat; decide
  refine ⟨flat, rfl, by decide, ?_⟩
  rw [text_parseInfo flat]
  decide

end SmartClock.Net
