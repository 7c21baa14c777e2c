import SmartClock.Json.Value
import Mathlib.Tactic.IntervalCases

/-!
# Where a key pattern can occur in encoded JSON

A hand-written decoder looks for the text `"name":`. In encoded JSON every quote inside a
string is escaped, so a quote that does not follow a backslash is the first or the last
of its string; and of those only a key's last quote is followed by a colon. So in a flat
object the pattern occurs at the member with that key and nowhere else, whatever the
values contain (`find_member`, `find_no_member`).
-/

namespace SmartClock.Json

open Text

/-- The text a decoder looks for: a quoted name and a colon. -/
def keyPattern (name : List UInt8) : List UInt8 := 34 :: name ++ [34, 58]

/-- A name a pattern can be made of: nonempty, and no byte of it is a quote, a backslash,
or one of the characters the encoder puts between tokens. -/
structure IsName (name : List UInt8) : Prop where
  nonempty : name ≠ []
  bytes : ∀ b ∈ name, b ∉ [32, 34, 44, 91, 92, 93, 123, 125]

/-! ## Escaped strings -/

theorem isNumByte_not_mem {b : UInt8} (h : isNumByte b = true) :
    b ∉ [0, 9, 32, 34, 44, 58, 91, 92, 93, 123, 125] := by
  intro inside
  simp only [List.mem_cons, List.not_mem_nil, or_false] at inside
  rcases inside with rfl | rfl | rfl | rfl | rfl | rfl | rfl | rfl | rfl | rfl | rfl <;> revert h <;> decide

theorem isNumByte_hexDigit (n : Nat) : isNumByte (hexDigit (n % 16)) = true := by
  have small : n % 16 < 16 := Nat.mod_lt _ (by decide)
  generalize n % 16 = d at small
  interval_cases d <;> decide

/-- What `plain` says of a code point. -/
theorem plain_iff {c : CodePoint} :
    plain c = true ↔ 0x20 ≤ c.val ∧ c.val ≤ 0x7e ∧ c.val ≠ 34 ∧ c.val ≠ 92 := by
  simp [plain, and_assoc]

theorem escapeChar_plain {c : CodePoint} (h : plain c = true) : escapeChar c = [c.val.toUInt8] := by
  simp [escapeChar, h]

/-- A plain byte is printable and neither a quote nor a backslash. -/
theorem plain_byte {c : CodePoint} (h : plain c = true) :
    c.val.toUInt8 ≠ 0 ∧ c.val.toUInt8 ≠ 34 ∧ c.val.toUInt8 ≠ 92 := by
  obtain ⟨low, high, notQuote, notBackslash⟩ := plain_iff.1 h
  have value : c.val.toUInt8.toNat = c.val := by
    rw [Nat.toUInt8_eq, UInt8.toNat_ofNat']; omega
  refine ⟨?_, ?_, ?_⟩ <;> intro e <;> rw [e] at value <;> simp at value <;> omega

/-- The two bytes of a short escape, or the letters and digits of one or two `\uXXXX`. -/
theorem escapeChar_escaped {c : CodePoint} (h : plain c = false) :
    ∃ x rest, escapeChar c = 92 :: x :: rest ∧ x ≠ 0 ∧ (x = 34 → rest = []) ∧
      ∀ b ∈ rest, b = 92 ∨ isNumByte b = true := by
  have u : isNumByte 117 = true := by decide
  have short {y : UInt8} (nonzero : y ≠ 0) :
      ∃ x rest, [92, y] = 92 :: x :: rest ∧ x ≠ 0 ∧ (x = 34 → rest = []) ∧
        ∀ b ∈ rest, b = 92 ∨ isNumByte b = true :=
    ⟨y, [], rfl, nonzero, fun _ => rfl, by simp⟩
  unfold escapeChar
  rw [h, if_neg Bool.false_ne_true]
  split
  iterate 7
    · exact short (by decide)
  · split
    · refine ⟨_, _, rfl, by decide, fun e => absurd e (by decide), ?_⟩
      simp [isNumByte_hexDigit]
    · refine ⟨_, _, rfl, by decide, fun e => absurd e (by decide), ?_⟩
      simp [unicodeEscape, isNumByte_hexDigit, u]

theorem escape_cons (c : CodePoint) (s : Str) : escape (c :: s) = escapeChar c ++ escape s := rfl

theorem zero_not_mem_escapeChar (c : CodePoint) : 0 ∉ escapeChar c := by
  cases h : plain c with
  | true =>
    rw [escapeChar_plain h, List.mem_singleton]
    exact (plain_byte h).1.symm
  | false =>
    obtain ⟨x, rest, eq, nonzero, -, bytes⟩ := escapeChar_escaped h
    rw [eq]
    simp only [List.mem_cons, not_or]
    refine ⟨by decide, nonzero.symm, fun inside => ?_⟩
    rcases bytes 0 inside with e | num
    · exact absurd e (by decide)
    · exact absurd num (by decide)

theorem zero_not_mem_escape (s : Str) : 0 ∉ escape s := by
  simp only [escape, List.mem_flatMap, not_exists, not_and]
  exact fun c _ => zero_not_mem_escapeChar c

/-- The only quote in an escaped character follows its backslash. -/
theorem escapeChar_quote {c : CodePoint} {a b : List UInt8} (h : escapeChar c = a ++ 34 :: b) :
    a = [92] := by
  cases hp : plain c with
  | true =>
    rw [escapeChar_plain hp] at h
    have inside : (34 : UInt8) ∈ [c.val.toUInt8] := h ▸ List.mem_append_right a List.mem_cons_self
    exact absurd (List.mem_singleton.1 inside).symm (plain_byte hp).2.1
  | false =>
    obtain ⟨x, rest, eq, -, short, bytes⟩ := escapeChar_escaped hp
    rw [eq] at h
    match a, h with
    | [], h => cases h
    | [_], h => cases h; rfl
    | _ :: _ :: a, h =>
      simp only [List.cons_append, List.cons.injEq] at h
      have inside : (34 : UInt8) ∈ rest := h.2.2 ▸ List.mem_append_right a List.mem_cons_self
      rcases bytes 34 inside with e | num
      · exact absurd e (by decide)
      · exact absurd num (by decide)

/-- **Every quote inside a string is escaped.** -/
theorem escape_quote {s : Str} {a b : List UInt8} (h : escape s = a ++ 34 :: b) :
    ∃ a', a = a' ++ [92] := by
  induction s generalizing a with
  | nil => cases a <;> cases h
  | cons c s ih =>
    rw [escape_cons, List.append_eq_append_iff] at h
    rcases h with ⟨a', rfl, later⟩ | ⟨b', here, later⟩
    · obtain ⟨a'', rfl⟩ := ih later
      exact ⟨escapeChar c ++ a'', by rw [List.append_assoc]⟩
    · cases b' with
      | nil =>
        obtain ⟨a'', impossible⟩ := ih (a := []) later.symm
        exact absurd (congrArg List.length impossible) (by simp)
      | cons d b' =>
        cases later
        exact ⟨[], escapeChar_quote here⟩

/-- A quote that is neither the first nor the last byte of a quoted string is escaped. -/
theorem quote_inner {s : Str} {a b : List UInt8} (h : quote s = a ++ 34 :: b) (first : a ≠ [])
    (last : b ≠ []) : ∃ a', a = a' ++ [92] := by
  obtain ⟨d, a, rfl⟩ := List.exists_cons_of_ne_nil first
  obtain ⟨b, z, rfl⟩ := (List.eq_nil_or_concat b).resolve_left last
  simp only [quote, List.cons_append, List.concat_eq_append, List.cons.injEq] at h
  have inner : escape s = a ++ 34 :: b := by
    have ends : escape s ++ [34] = (a ++ 34 :: b) ++ [z] := by simpa using h.2
    exact (List.append_inj' ends rfl).1
  obtain ⟨a', rfl⟩ := escape_quote inner
  exact ⟨d :: a', rfl⟩

theorem zero_not_mem_quote (s : Str) : 0 ∉ quote s := by
  simp [quote, zero_not_mem_escape]

/-! ## Strings without escapes -/

/-- The character of a byte. -/
def ofByte (b : UInt8) : CodePoint := ⟨b.toNat, Nat.lt_trans b.toNat_lt (by decide)⟩

/-- A plain character is its byte. -/
theorem ofByte_plain {c : CodePoint} (h : plain c = true) : ofByte c.val.toUInt8 = c := by
  obtain ⟨-, high, -⟩ := plain_iff.1 h
  apply Fin.ext
  show c.val.toUInt8.toNat = c.val
  rw [Nat.toUInt8_eq, UInt8.toNat_ofNat']
  omega

theorem escape_of_plain {s : Str} (h : ∀ c ∈ s, plain c = true) :
    escape s = s.map fun c => c.val.toUInt8 := by
  induction s with
  | nil => rfl
  | cons c s ih =>
    rw [escape_cons, escapeChar_plain (h c List.mem_cons_self),
      ih fun c inside => h c (List.mem_cons_of_mem _ inside)]
    rfl

/-- Only a plain string is written as a plain string is. -/
theorem eq_of_escape_eq {s t : Str} (ht : ∀ c ∈ t, plain c = true) (same : escape s = escape t) : s = t := by
  have hs : ∀ c ∈ s, plain c = true := by
    intro c inside
    by_contra escaped
    obtain ⟨x, rest, eq, -⟩ := escapeChar_escaped (Bool.not_eq_true _ ▸ escaped)
    have backslash : (92 : UInt8) ∈ escape t := by
      rw [← same]
      exact List.mem_flatMap.2 ⟨c, inside, by rw [eq]; exact List.mem_cons_self⟩
    rw [escape_of_plain ht] at backslash
    obtain ⟨d, inside', byte⟩ := List.mem_map.1 backslash
    exact (plain_byte (ht d inside')).2.2 byte
  have back {r : Str} (h : ∀ c ∈ r, plain c = true) : (escape r).map ofByte = r := by
    rw [escape_of_plain h, List.map_map]
    exact (List.map_congr_left fun c inside => ofByte_plain (h c inside)).trans (List.map_id r)
  rw [← back hs, same, back ht]

/-- Only a quote is written with a quote. -/
theorem quote_mem_escapeChar {c : CodePoint} (h : 34 ∈ escapeChar c) : c.val = 34 := by
  have hex (n : Nat) : (34 : UInt8) ∉ unicodeEscape n := by
    have digit (n : Nat) : hexDigit (n % 16) ≠ 34 := fun e =>
      absurd (e ▸ isNumByte_hexDigit n) (by decide)
    simp [unicodeEscape, (digit _).symm]
  cases hp : plain c with
  | true =>
    rw [escapeChar_plain hp] at h
    exact absurd (List.mem_singleton.1 h).symm (plain_byte hp).2.1
  | false =>
    unfold escapeChar at h
    rw [hp, if_neg Bool.false_ne_true] at h
    split at h
    · assumption
    iterate 6
      · exact absurd h (by decide)
    · split at h
      · exact absurd h (hex _)
      · exact absurd h (by simp [hex])

theorem quote_not_mem_escape {s : Str} (h : ∀ c ∈ s, c.val ≠ 34) : 34 ∉ escape s := by
  intro inside
  obtain ⟨c, here, byte⟩ := List.mem_flatMap.1 inside
  apply h c here
  exact quote_mem_escapeChar byte

mutual

/-- An encoded value is a C string. -/
theorem zero_not_mem_dumps : ∀ v : Value, 0 ∉ dumps v
  | .null => by decide
  | .bool true => by decide
  | .bool false => by decide
  | .num n => fun inside => absurd (n.bytes 0 (by simpa [dumps] using inside)) (by decide)
  | .str s => by simpa only [dumps] using zero_not_mem_quote s
  | .arr [] => by decide
  | .arr (item :: items) => by
    simp [dumps, zero_not_mem_dumps item, zero_not_mem_dumpsItems items]
  | .obj [] => by decide
  | .obj ((key, value) :: members) => by
    simp [dumps, ascii, zero_not_mem_quote, zero_not_mem_dumps value, zero_not_mem_dumpsMembers members]

theorem zero_not_mem_dumpsItems : ∀ items : List Value, 0 ∉ dumpsItems items
  | [] => by decide
  | item :: items => by
    simp [dumpsItems, ascii, zero_not_mem_dumps item, zero_not_mem_dumpsItems items]

theorem zero_not_mem_dumpsMembers : ∀ members : List (Str × Value), 0 ∉ dumpsMembers members
  | [] => by decide
  | (key, value) :: members => by
    simp [dumpsMembers, ascii, zero_not_mem_quote, zero_not_mem_dumps value,
      zero_not_mem_dumpsMembers members]

end

/-- An encoded value as a decoder gets it. -/
def encoded (v : Value) : CStr := ⟨dumps v, zero_not_mem_dumps v⟩

/-! ## Values hide no pattern -/

theorem keyPattern_ne_nil (name : List UInt8) : keyPattern name ≠ [] := by simp [keyPattern]

section Pattern

variable {name : List UInt8} (hn : IsName name)

include hn

theorem not_mem_keyPattern {c : UInt8} (sep : c ∈ [32, 44, 91, 93, 123, 125]) : c ∉ keyPattern name := by
  intro inside
  simp only [keyPattern, List.cons_append, List.mem_cons, List.mem_append, List.not_mem_nil, or_false] at inside
  rcases inside with rfl | inside | rfl | rfl
  · revert sep; decide
  · have outside := hn.bytes c inside
    simp only [List.mem_cons, List.not_mem_nil, or_false, not_or] at outside sep
    rcases sep with rfl | rfl | rfl | rfl | rfl | rfl <;> simp at outside
  · revert sep; decide
  · revert sep; decide

/-- The search behind a byte that stands between tokens. -/
theorem find_sep {c : UInt8} (sep : c ∈ [32, 44, 91, 93, 123, 125]) (text : List UInt8) :
    find (keyPattern name) (c :: text) = (find (keyPattern name) text).map (· + 1) :=
  find_sep_cons (keyPattern_ne_nil name) (not_mem_keyPattern hn sep) text

/-- The search behind the comma and the blank in front of an item or a member. -/
theorem find_comma_blank (text : List UInt8) :
    find (keyPattern name) (44 :: 32 :: text) = (find (keyPattern name) text).map (· + 2) := by
  rw [find_sep hn (by decide), find_sep hn (by decide), Option.map_map]
  rfl

/-- The search behind a text that hides no pattern. -/
theorem find_hidden {a b : List UInt8} {c : UInt8} (sep : c ∈ [32, 44, 91, 93, 123, 125])
    (missing : find (keyPattern name) a = none) :
    find (keyPattern name) (a ++ c :: b) = (find (keyPattern name) (c :: b)).map (· + a.length) :=
  find_skip (keyPattern_ne_nil name) (not_mem_keyPattern hn sep) missing

omit hn in
theorem find_quoteless {text : List UInt8} (quoteless : 34 ∉ text) : find (keyPattern name) text = none :=
  find_eq_none_of_not_mem List.mem_cons_self quoteless

/-- A quote right after a name is not escaped, so it does not lie inside a string. -/
theorem find_quote (s : Str) : find (keyPattern name) (quote s) = none := by
  rw [find_eq_none_iff]
  rintro j - ⟨tail, occurs⟩
  -- the text up to the pattern's second quote
  have whole : quote s = ((quote s).take j ++ 34 :: name) ++ 34 :: (58 :: tail) := by
    conv_lhs => rw [← List.take_append_drop j (quote s), ← occurs]
    simp [keyPattern]
  obtain ⟨a', ends⟩ := quote_inner whole (by simp) (by simp)
  obtain ⟨front, z, rfl⟩ := (List.eq_nil_or_concat name).resolve_left hn.nonempty
  rw [List.concat_eq_append, ← List.cons_append, ← List.append_assoc] at ends
  obtain rfl : z = 92 := by simpa using (List.append_inj' ends rfl).2
  exact hn.bytes 92 (by simp) (by simp)

/-- A scalar value hides no pattern. -/
theorem find_scalar {v : Value} (scalar : v.isScalar = true) : find (keyPattern name) (dumps v) = none := by
  cases v with
  | null => exact find_quoteless (by decide)
  | bool b => cases b <;> exact find_quoteless (by decide)
  | num n =>
    apply find_quoteless
    intro inside
    exact absurd (n.bytes 34 (by simpa [dumps] using inside)) (by decide)
  | str s => simpa only [dumps] using find_quote hn s
  | arr _ | obj _ => cases scalar

/-- The search behind a value that hides no pattern, before further items. -/
theorem find_before_items {v : Value} (here : find (keyPattern name) (dumps v) = none) (items : List Value) :
    find (keyPattern name) (dumps v ++ dumpsItems items) =
      (find (keyPattern name) (dumpsItems items)).map (· + (dumps v).length) := by
  cases items with
  | nil => exact find_hidden hn (by decide) here
  | cons item items => exact find_hidden hn (by decide) here

/-- The search behind a value that hides no pattern, before further members. -/
theorem find_before_members {v : Value} (here : find (keyPattern name) (dumps v) = none)
    (members : List (Str × Value)) :
    find (keyPattern name) (dumps v ++ dumpsMembers members) =
      (find (keyPattern name) (dumpsMembers members)).map (· + (dumps v).length) := by
  cases members with
  | nil => exact find_hidden hn (by decide) here
  | cons member members => exact find_hidden hn (by decide) here

theorem find_dumpsItems {items : List Value} (scalars : ∀ v ∈ items, v.isScalar = true) :
    find (keyPattern name) (dumpsItems items) = none := by
  induction items with
  | nil => exact find_quoteless (by decide)
  | cons item items ih =>
    have rest := ih fun v inside => scalars v (List.mem_cons_of_mem _ inside)
    have here := find_scalar hn (scalars item List.mem_cons_self)
    have text : dumpsItems (item :: items) = 44 :: 32 :: (dumps item ++ dumpsItems items) := rfl
    rw [text, find_comma_blank hn, find_before_items hn here, rest]
    rfl

/-- A list of scalars hides no pattern. -/
theorem find_arr {items : List Value} (scalars : ∀ v ∈ items, v.isScalar = true) :
    find (keyPattern name) (dumps (.arr items)) = none := by
  cases items with
  | nil => exact find_quoteless (by decide)
  | cons item items =>
    have here := find_scalar hn (scalars item List.mem_cons_self)
    have rest := find_dumpsItems hn fun v inside => scalars v (List.mem_cons_of_mem _ inside)
    rw [dumps, List.cons_append, find_sep hn (by decide), find_before_items hn here, rest]
    rfl

/-! ## Members -/

/-- A quoted key holds the pattern iff it is the name. -/
theorem find_key {key : List UInt8} (clean : 34 ∉ key) :
    find (keyPattern name) (keyPattern key) = if key = name then some 0 else none := by
  split
  · rename_i same
    rw [same]
    exact find_of_isPrefix (List.prefix_refl _)
  · rename_i other
    rw [find_eq_none_iff]
    intro j _ occurs
    cases j with
    | zero =>
      have quoteless : (34 : UInt8) ∉ name := fun inside => hn.bytes 34 inside (by decide)
      obtain ⟨tail, occurs⟩ := occurs
      have texts : key ++ 34 :: [58] = name ++ 34 :: (58 :: tail) := by
        simpa [keyPattern] using occurs.symm
      have upToQuote {bytes : List UInt8} (out : 34 ∉ bytes) (b : List UInt8) :
          (bytes ++ 34 :: b).takeWhile (· != 34) = bytes :=
        takeWhile_append_all (fun x inside => by simpa using fun e : x = 34 => out (e ▸ inside)) rfl
      refine absurd ?_ other
      rw [← upToQuote clean [58], texts, upToQuote quoteless]
    | succ j =>
      -- the pattern has two quotes, and only one is left
      have two : (keyPattern name).count 34 = 2 + name.count 34 := by
        simp [keyPattern]; omega
      have one : ((keyPattern key).drop (j + 1)).count 34 ≤ 1 := by
        refine ((List.drop_sublist j (key ++ [34, 58])).count_le 34).trans ?_
        simp [List.count_eq_zero_of_not_mem clean]
      have := occurs.sublist.count_le 34
      omega

/-- The text of members that others follow, from the separator in front of each. -/
def membersText (members : List (Str × Value)) : List UInt8 :=
  members.flatMap fun m => ascii ", " ++ quote m.1 ++ ascii ": " ++ dumps m.2

/-- The text of a flat object in front of the member after `members`. -/
def beforeMember (members : List (Str × Value)) : List UInt8 :=
  123 :: (membersText members ++ ascii ", ").drop 2

omit hn in
theorem dumpsMembers_append (members rest : List (Str × Value)) :
    dumpsMembers (members ++ rest) = membersText members ++ dumpsMembers rest := by
  induction members with
  | nil => rfl
  | cons m members ih =>
    rw [List.cons_append, dumpsMembers, ih]
    simp [membersText]

omit hn in
/-- The members of an object are those after a comma and a blank, less these two. -/
theorem dumps_obj_cons (m : Str × Value) (members : List (Str × Value)) :
    dumps (.obj (m :: members)) = 123 :: (dumpsMembers (m :: members)).drop 2 := by
  simp [dumps, dumpsMembers, ascii]

omit hn in
/-- An object's text at one of its members. -/
theorem dumps_obj_split (pre : List (Str × Value)) (key : Str) (value : Value)
    (post : List (Str × Value)) :
    dumps (.obj (pre ++ (key, value) :: post)) =
      beforeMember pre ++ keyPattern (escape key) ++ 32 :: (dumps value ++ dumpsMembers post) := by
  have member : dumpsMembers ((key, value) :: post) =
      ascii ", " ++ (keyPattern (escape key) ++ 32 :: (dumps value ++ dumpsMembers post)) := by
    simp [dumpsMembers, quote, keyPattern, ascii]
  cases pre with
  | nil => rw [List.nil_append, dumps_obj_cons, member]; rfl
  | cons m pre =>
    rw [List.cons_append, dumps_obj_cons, ← List.cons_append, dumpsMembers_append, member]
    simp [beforeMember, membersText, ascii]

/-- The members' text up to the one named: the first hit is that member's key. -/
theorem find_dumpsMembers {members : List (Str × Value)}
    (hidden : ∀ m ∈ members, find (keyPattern name) (dumps m.2) = none)
    (others : ∀ m ∈ members, escape m.1 ≠ name ∧ 34 ∉ escape m.1) (rest : List (Str × Value)) :
    find (keyPattern name) (dumpsMembers (members ++ rest)) =
      (find (keyPattern name) (dumpsMembers rest)).map (· + (membersText members).length) := by
  induction members with
  | nil => simp [membersText]
  | cons m members ih =>
    obtain ⟨key, value⟩ := m
    obtain ⟨other, clean⟩ := others _ List.mem_cons_self
    have text : dumpsMembers ((key, value) :: members ++ rest) =
        44 :: 32 :: (keyPattern (escape key) ++ 32 :: (dumps value ++ dumpsMembers (members ++ rest))) := by
      simp [dumpsMembers, quote, keyPattern, ascii]
    have missing : find (keyPattern name) (keyPattern (escape key)) = none := by
      rw [find_key hn clean, if_neg other]
    rw [text, find_comma_blank hn, find_hidden hn (by decide) missing, find_sep hn (by decide),
      find_before_members hn (hidden _ List.mem_cons_self),
      ih (fun m inside => hidden m (List.mem_cons_of_mem _ inside))
        (fun m inside => others m (List.mem_cons_of_mem _ inside))]
    simp only [Option.map_map]
    congr 1
    funext i
    simp [membersText, keyPattern, quote, ascii]
    omega

/-- An object opens with one byte where a further member opens with two. -/
theorem find_dumps_obj (m : Str × Value) (members : List (Str × Value)) :
    find (keyPattern name) (dumpsMembers (m :: members)) =
      (find (keyPattern name) (dumps (.obj (m :: members)))).map (· + 1) := by
  obtain ⟨text, opens⟩ : ∃ text, dumpsMembers (m :: members) = 44 :: 32 :: text :=
    ⟨_, rfl⟩
  rw [dumps_obj_cons, opens, find_comma_blank hn, List.drop_succ_cons, List.drop_succ_cons,
    List.drop_zero, find_sep hn (by decide), Option.map_map]
  rfl

/-- **The first hit of a key pattern** in an object is the first member with that key,
whatever the values before it contain. -/
theorem find_member {pre : List (Str × Value)} {key : Str}
    (hidden : ∀ m ∈ pre, find (keyPattern name) (dumps m.2) = none)
    (others : ∀ m ∈ pre, escape m.1 ≠ name ∧ 34 ∉ escape m.1) (named : escape key = name)
    (value : Value) (post : List (Str × Value)) :
    find (keyPattern name) (dumps (.obj (pre ++ (key, value) :: post))) =
      some (beforeMember pre).length := by
  have text : dumpsMembers ((key, value) :: post) =
      44 :: 32 :: (keyPattern name ++ 32 :: (dumps value ++ dumpsMembers post)) := by
    simp [dumpsMembers, quote, keyPattern, ascii, named]
  have hit : find (keyPattern name) (dumpsMembers (pre ++ (key, value) :: post)) =
      some (2 + (membersText pre).length) := by
    rw [find_dumpsMembers hn hidden others, text, find_comma_blank hn, find_append_self]
    rfl
  obtain ⟨m, members, list⟩ : ∃ m members, pre ++ (key, value) :: post = m :: members :=
    List.exists_cons_of_ne_nil (by simp)
  rw [list, find_dumps_obj hn, Option.map_eq_some_iff] at hit
  obtain ⟨i, found, count⟩ := hit
  rw [list, found]
  simp [beforeMember, ascii]
  omega

/-- Members without that key hold no hit. -/
theorem find_dumpsMembers_none {members : List (Str × Value)}
    (hidden : ∀ m ∈ members, find (keyPattern name) (dumps m.2) = none)
    (others : ∀ m ∈ members, escape m.1 ≠ name ∧ 34 ∉ escape m.1) :
    find (keyPattern name) (dumpsMembers members) = none := by
  have closing : find (keyPattern name) (dumpsMembers []) = none := find_quoteless (by decide)
  have walked := find_dumpsMembers hn hidden others []
  rwa [List.append_nil, closing] at walked

omit hn in
theorem dumpsMembers_eq (members : List (Str × Value)) (text : List UInt8) :
    dumpsMembers members ++ text = membersText members ++ 125 :: text := by
  have ends := dumpsMembers_append members []
  rw [List.append_nil] at ends
  rw [ends, List.append_assoc]
  rfl

/-- Nor does their text without the closing brace. -/
theorem find_membersText {members : List (Str × Value)}
    (hidden : ∀ m ∈ members, find (keyPattern name) (dumps m.2) = none)
    (others : ∀ m ∈ members, escape m.1 ≠ name ∧ 34 ∉ escape m.1) :
    find (keyPattern name) (membersText members) = none := by
  have missing := find_dumpsMembers_none hn hidden others
  rw [← List.append_nil (dumpsMembers members), dumpsMembers_eq,
    find_append_sep (keyPattern_ne_nil name) (not_mem_keyPattern hn (by decide))] at missing
  exact (Option.or_eq_none_iff.1 missing).1

/-- An object without that key holds no hit. -/
theorem find_no_member {members : List (Str × Value)}
    (hidden : ∀ m ∈ members, find (keyPattern name) (dumps m.2) = none)
    (others : ∀ m ∈ members, escape m.1 ≠ name ∧ 34 ∉ escape m.1) :
    find (keyPattern name) (dumps (.obj members)) = none := by
  have missing := find_dumpsMembers_none hn hidden others
  cases members with
  | nil => exact find_quoteless (by decide)
  | cons m members =>
    rw [find_dumps_obj hn, Option.map_eq_none_iff] at missing
    exact missing

end Pattern

end SmartClock.Json
