import SmartClock.Run.Checked
import SmartClock.Net.ParseNews

/-!
# `parse_news_titles`, access by access

The function as a program over memory: the text and its terminator, an index into it, and
the rows of `g_news`. A read behind the terminator and a store outside the rows fault. The
program halts for every text, with what `parseNewsTitles` computes (`scan_halts`), and so
without a fault.
-/

namespace SmartClock.Net

open Text Json Run

/-- The statements of `parse_news_titles`. -/
inductive Pc where
  /-- the condition of the outer loop, `strstr` and `pos += 8` -/
  | search
  /-- the loop over blanks -/
  | blanks
  /-- `strncmp`, `pos += 4` and `continue` -/
  | null
  /-- the first `if (*pos == '"') pos++;` and `int i = 0;` -/
  | opening
  /-- the loop that copies the title -/
  | copy
  /-- `g_news.titles[g_news.count][i] = '\0';` -/
  | terminate
  /-- the second `if (*pos == '"') pos++;` -/
  | closing
  /-- `if (i > 0) g_news.count++;` -/
  | tally
  /-- `if (g_news.count > 0) g_news.ready = true;` -/
  | finish
  | done
deriving DecidableEq

structure ScanState where
  pc : Pc
  pos : Nat
  i : Nat
  g : NewsData

/-- `g_news.titles[row][col] = b;` -/
def storeTitle (g : NewsData) (row col : Nat) (b : UInt8) : Option NewsData :=
  if h : row < newsMax ∧ col < newsTitleLen then
    some { g with titles := g.titles.set row (g.titles[row].set col b h.2) h.1 }
  else none

section Scan

variable (mem : List UInt8)

/-- One statement, or one round of a loop. `strstr` and `strncmp` need a string at `pos`. -/
def scanStep : ScanState → StepOutcome ScanState
  | ⟨.search, pos, i, g⟩ =>
    if g.count < newsMax then
      .checked ((cstr (mem.drop pos)).map fun text =>
        match find titleKey text.1 with
        | none => ⟨.finish, pos, i, g⟩
        | some k => ⟨.blanks, pos + k + 8, i, g⟩)
    else .next ⟨.finish, pos, i, g⟩
  | ⟨.blanks, pos, i, g⟩ =>
    .checked (mem[pos]?.map fun b => if b = 32 ∨ b = 9 then ⟨.blanks, pos + 1, i, g⟩ else ⟨.null, pos, i, g⟩)
  | ⟨.null, pos, i, g⟩ =>
    .checked ((cstr (mem.drop pos)).map fun text =>
      if ascii "null" <+: text.1 then ⟨.search, pos + 4, i, g⟩ else ⟨.opening, pos, i, g⟩)
  | ⟨.opening, pos, _, g⟩ =>
    .checked (mem[pos]?.map fun b => ⟨.copy, if b = 34 then pos + 1 else pos, 0, g⟩)
  | ⟨.copy, pos, i, g⟩ =>
    .checked (mem[pos]?.bind fun b =>
      if b ≠ 0 ∧ b ≠ 34 ∧ i < newsTitleLen - 1 then
        (storeTitle g g.count i b).map fun g => ⟨.copy, pos + 1, i + 1, g⟩
      else some ⟨.terminate, pos, i, g⟩)
  | ⟨.terminate, pos, i, g⟩ => .checked ((storeTitle g g.count i 0).map fun g => ⟨.closing, pos, i, g⟩)
  | ⟨.closing, pos, i, g⟩ =>
    .checked (mem[pos]?.map fun b => ⟨.tally, if b = 34 then pos + 1 else pos, i, g⟩)
  | ⟨.tally, pos, i, g⟩ => .next ⟨.search, pos, i, if i > 0 then { g with count := g.count + 1 } else g⟩
  | ⟨.finish, pos, i, g⟩ => .next ⟨.done, pos, i, if g.count > 0 then { g with ready := true } else g⟩
  | ⟨.done, _, _, _⟩ => .halt

end Scan

/-- The text and its terminator. -/
def memory (json : CStr) : List UInt8 := json.1 ++ [0]

/-- Where the function starts: `g_news.count = 0; g_news.ready = false; pos = json;`. -/
def scanStart (g : NewsData) : ScanState := ⟨.search, 0, 0, { g with count := 0, ready := false }⟩

/-! ## Reads -/

/-- The pointer stands at `text`, which goes on to the terminator. -/
structure At (json : CStr) (pos : Nat) (text : List UInt8) : Prop where
  inside : pos ≤ json.1.length
  text : json.1.drop pos = text

section Scan

variable {json : CStr} {pos : Nat} {text : List UInt8}

namespace At

/-- The pointer moves on inside the text. -/
theorem skip (h : At json pos text) {n : Nat} (le : n ≤ text.length) :
    At json (pos + n) (text.drop n) := by
  obtain ⟨inside, rfl⟩ := h
  rw [List.length_drop] at le
  exact ⟨by omega, (List.drop_drop ..).symm⟩

theorem next {b : UInt8} (h : At json pos (b :: text)) : At json (pos + 1) text :=
  h.skip (n := 1) (Nat.le_add_left 1 _)

theorem clean (h : At json pos text) : 0 ∉ text := h.text ▸ (dropStr json pos).2

/-- The byte at the pointer, at the end the terminator. -/
theorem read (h : At json pos text) : (memory json)[pos]? = some (text.headD 0) := by
  obtain ⟨inside, rfl⟩ := h
  have split : (memory json).drop pos = json.1.drop pos ++ [0] := List.drop_append_of_le_length inside
  rw [← List.head?_drop, split]
  cases json.1.drop pos <;> rfl

/-- The string at the pointer. -/
theorem string (h : At json pos text) : cstr ((memory json).drop pos) = some ⟨text, h.clean⟩ := by
  obtain ⟨inside, rfl⟩ := h
  have split : (memory json).drop pos = json.1.drop pos ++ List.replicate 1 0 :=
    List.drop_append_of_le_length inside
  rw [split, cstr_zeroed (.inl (by decide))]
  exact congrArg some (Subtype.ext (upToZero_of_no_zero (dropStr json pos).2))

end At

/-! ## The statements -/

variable {i : Nat} {g : NewsData}

/-- The loop over blanks. -/
theorem blanks_leads (h : At json pos text) :
    ∃ pos', At json pos' (skipBlanks text) ∧
      Leads (scanStep (memory json)) ⟨.blanks, pos, i, g⟩ ⟨.null, pos', i, g⟩ := by
  induction text generalizing pos with
  | nil =>
    refine ⟨pos, h, .one ?_⟩
    rw [scanStep, h.read]
    rfl
  | cons b text ih =>
    have read := h.read
    rw [List.headD_cons] at read
    by_cases blank : b = 32 ∨ b = 9
    · obtain ⟨pos', stands, ran⟩ := ih h.next
      rw [skipBlanks, if_pos blank]
      refine ⟨pos', stands, .step ?_ ran⟩
      rw [scanStep, read, Option.map_some, if_pos blank]
      rfl
    · rw [skipBlanks, if_neg blank]
      refine ⟨pos, h, .one ?_⟩
      rw [scanStep, read, Option.map_some, if_neg blank]
      rfl

/-- A pointer that skips a quote. -/
theorem At.skipQuote (h : At json pos text) :
    At json (if text.headD 0 = 34 then pos + 1 else pos) (skipQuote text) := by
  cases text with
  | nil => exact h
  | cons b text =>
    rw [List.headD_cons, Net.skipQuote]
    by_cases quote : b = 34
    · rw [if_pos quote, if_pos quote]
      exact h.next
    · rw [if_neg quote, if_neg quote]
      exact h

theorem opening_leads (h : At json pos text) :
    ∃ pos', At json pos' (skipQuote text) ∧
      Leads (scanStep (memory json)) ⟨.opening, pos, i, g⟩ ⟨.copy, pos', 0, g⟩ := by
  refine ⟨_, h.skipQuote, .one ?_⟩
  rw [scanStep, h.read]
  rfl

theorem closing_leads (h : At json pos text) :
    ∃ pos', At json pos' (skipQuote text) ∧
      Leads (scanStep (memory json)) ⟨.closing, pos, i, g⟩ ⟨.tally, pos', i, g⟩ := by
  refine ⟨_, h.skipQuote, .one ?_⟩
  rw [scanStep, h.read]
  rfl

/-- A store inside the rows. -/
theorem storeTitle_eq (room : g.count < newsMax) (col : Fin newsTitleLen) (b : UInt8) :
    storeTitle g g.count col b =
      some { g with titles := g.titles.set g.count (g.titles[g.count].set col b) } :=
  dif_pos ⟨room, col.2⟩

/-- A store of what a row holds. -/
theorem store_same (room : g.count < newsMax) :
    { g with titles := g.titles.set g.count g.titles[g.count] } = g := by
  rw [Vector.set_getElem_self]

/-- The copy loop writes the row as `copyUntil` does. -/
theorem copy_leads (h : At json pos text) (room : g.count < newsMax) (j : Fin newsTitleLen) :
    let out := copyUntil endsQuoted g.titles[g.count] j text
    ∃ pos', At json pos' out.2.2 ∧
      Leads (scanStep (memory json)) ⟨.copy, pos, j, g⟩
        ⟨.terminate, pos', out.2.1, { g with titles := g.titles.set g.count out.1 }⟩ := by
  induction text generalizing pos j g with
  | nil =>
    dsimp only [copyUntil]
    rw [store_same room]
    refine ⟨pos, h, .one ?_⟩
    rw [scanStep, h.read]
    rfl
  | cons b text ih =>
    have read := h.read
    rw [List.headD_cons] at read
    have nonzero : b ≠ 0 := by
      rintro rfl
      exact h.clean List.mem_cons_self
    have ends : endsQuoted b = false ↔ b ≠ 34 := by rw [endsQuoted, beq_eq_false_iff_ne]
    by_cases more : b ≠ 34 ∧ j.val < newsTitleLen - 1
    · have go : scanStep (memory json) ⟨.copy, pos, j, g⟩ =
          .next ⟨.copy, pos + 1, j + 1,
            { g with titles := g.titles.set g.count (g.titles[g.count].set j b) }⟩ := by
        rw [scanStep, read, Option.bind_some, if_pos ⟨nonzero, more⟩, storeTitle_eq room j b]
        rfl
      obtain ⟨pos', stands, ran⟩ := @ih (pos + 1)
        { g with titles := g.titles.set g.count (g.titles[g.count].set j b) } h.next room
        ⟨j.val + 1, Nat.add_lt_of_lt_sub more.2⟩
      simp only [Vector.getElem_set_self, Vector.set_set] at stands ran
      dsimp only
      rw [copyUntil_cons (ends.2 more.1) more.2]
      exact ⟨pos', stands, .step go ran⟩
    · have stop : copyUntil endsQuoted g.titles[g.count] j (b :: text) =
          (g.titles[g.count], j, b :: text) := by
        rw [copyUntil, dif_neg fun both => more ⟨ends.1 both.1, both.2⟩]
      dsimp only
      rw [stop]
      dsimp only
      rw [store_same room]
      refine ⟨pos, h, .one ?_⟩
      rw [scanStep, read, Option.bind_some, if_neg fun all => more all.2]
      rfl

/-- The terminator behind the copied bytes. -/
theorem terminate_leads (room : g.count < newsMax) (col : Fin newsTitleLen) :
    Leads (scanStep (memory json)) ⟨.terminate, pos, col, g⟩
      ⟨.closing, pos, col, { g with titles := g.titles.set g.count (g.titles[g.count].set col 0) }⟩ := by
  apply Leads.one
  rw [scanStep, storeTitle_eq room]
  rfl

/-! ## Passes and the loop -/

/-- A pass of the outer loop behind a hit. -/
theorem pass_leads (h : At json pos text) (room : g.count < newsMax) :
    ∃ pos' i', At json pos' (scanTitle text g room).1 ∧
      Leads (scanStep (memory json)) ⟨.blanks, pos, i, g⟩ ⟨.search, pos', i', (scanTitle text g room).2⟩ := by
  obtain ⟨pos₁, stands₁, ran₁⟩ := @blanks_leads json pos text i g h
  unfold scanTitle
  dsimp only
  by_cases null : ascii "null" <+: skipBlanks text
  · have four : (ascii "null").length ≤ (skipBlanks text).length := null.length_le
    rw [if_pos null]
    refine ⟨pos₁ + 4, i, stands₁.skip four, ran₁.trans (.one ?_)⟩
    rw [scanStep, stands₁.string, Option.map_some, if_pos null]
    rfl
  · rw [if_neg null]
    have goOn : scanStep (memory json) ⟨.null, pos₁, i, g⟩ = .next ⟨.opening, pos₁, i, g⟩ := by
      rw [scanStep, stands₁.string, Option.map_some, if_neg null]
      rfl
    obtain ⟨pos₂, stands₂, ran₂⟩ := @opening_leads json pos₁ _ i g stands₁
    obtain ⟨pos₃, stands₃, ran₃⟩ := copy_leads stands₂ room ⟨0, by decide⟩
    unfold copyField
    generalize copyUntil endsQuoted g.titles[g.count] ⟨0, _⟩ (skipQuote (skipBlanks text)) = out at stands₃ ran₃
    obtain ⟨row, col, rest⟩ := out
    dsimp only at stands₃ ran₃
    have ran₄ := @terminate_leads json pos₃ { g with titles := g.titles.set g.count row } room col
    simp only [Vector.getElem_set_self, Vector.set_set] at ran₄
    obtain ⟨pos₅, stands₅, ran₅⟩ := @closing_leads json pos₃ rest col
      { g with titles := g.titles.set g.count (row.set col 0) } stands₃
    refine ⟨pos₅, col, stands₅, ?_⟩
    exact ran₁.trans (.step goOn (ran₂.trans (ran₃.trans (ran₄.trans (ran₅.trans (.one rfl))))))

/-- The outer loop, from any pass. -/
theorem search_leads {passes : Nat} (h : At json pos text) (enough : text.length < passes) :
    ∃ pos' i', Leads (scanStep (memory json)) ⟨.search, pos, i, g⟩ ⟨.finish, pos', i', titleLoop passes text g⟩ := by
  induction passes generalizing pos text i g with
  | zero => cases enough
  | succ passes ih =>
    by_cases room : g.count < newsMax
    · rw [titleLoop, dif_pos room]
      cases hit : find titleKey text with
      | none =>
        refine ⟨pos, i, .one ?_⟩
        rw [scanStep, if_pos room, h.string, Option.map_some, hit]
        rfl
      | some k =>
        have key : k + titleKey.length ≤ text.length := find_le hit
        have found : scanStep (memory json) ⟨.search, pos, i, g⟩ =
            .next ⟨.blanks, pos + (k + titleKey.length), i, g⟩ := by
          rw [scanStep, if_pos room, h.string, Option.map_some, hit]
          rfl
        have shorter := scanTitle_length_le (text.drop (k + titleKey.length)) g room
        rw [List.length_drop] at shorter
        have keyLong : 0 < titleKey.length := by decide
        obtain ⟨pos₁, i₁, stands₁, ran₁⟩ := @pass_leads json _ _ i g (h.skip key) room
        obtain ⟨pos₂, i₂, ran₂⟩ := @ih pos₁ _ i₁ (scanTitle _ g room).2 stands₁ (by omega)
        exact ⟨pos₂, i₂, .step found (ran₁.trans ran₂)⟩
    · rw [titleLoop, dif_neg room]
      refine ⟨pos, i, .one ?_⟩
      rw [scanStep, if_neg room]

/-- The program halts with what `parseNewsTitles` computes. -/
theorem scan_halts (json : CStr) (g : NewsData) :
    ∃ final, Halts (scanStep (memory json)) (scanStart g) final ∧ final.pc = .done ∧
      final.g = parseNewsTitles json g := by
  have start : At json 0 json.1 := ⟨Nat.zero_le _, rfl⟩
  obtain ⟨pos, i, ran⟩ := @search_leads json 0 json.1 0 { g with count := 0, ready := false }
    (json.1.length + 1) start (Nat.lt_succ_self _)
  exact ⟨⟨.done, pos, i, parseNewsTitles json g⟩, ⟨ran.trans (.one rfl), rfl⟩, rfl, rfl⟩

end Scan

/-! ## What the rows hold -/

/-- A title of a text is not empty, fits its row and holds no quote. -/
structure IsTitle (title : List UInt8) : Prop where
  nonempty : title ≠ []
  fits : title.length < newsTitleLen
  clean : 34 ∉ title

theorem quote_not_mem_nextTitle (pos : List UInt8) : 34 ∉ (nextTitle pos).1 := by
  unfold nextTitle
  dsimp only
  split
  · exact List.not_mem_nil
  · intro inside
    have goes := List.mem_takeWhile_imp (List.mem_of_mem_take inside)
    exact absurd goes (by decide)

theorem titlesFrom_spec (passes room : Nat) {pos : List UInt8} (clean : 0 ∉ pos) :
    (titlesFrom passes room pos).length ≤ room ∧ ∀ title ∈ titlesFrom passes room pos, IsTitle title := by
  induction passes generalizing room pos with
  | zero => exact ⟨Nat.zero_le room, List.forall_mem_nil _⟩
  | succ passes ih =>
    cases room with
    | zero => exact ⟨Nat.le_refl 0, List.forall_mem_nil _⟩
    | succ room =>
      rw [titlesFrom]
      cases hit : find titleKey pos with
      | none => exact ⟨Nat.zero_le _, List.forall_mem_nil _⟩
      | some k =>
        have cleanHit : 0 ∉ pos.drop (k + titleKey.length) := fun inside => clean (List.mem_of_mem_drop inside)
        have cleanNext : 0 ∉ (nextTitle (pos.drop (k + titleKey.length))).2 := fun inside =>
          cleanHit ((nextTitle_sublist _).subset inside)
        dsimp only
        by_cases untitled : (nextTitle (pos.drop (k + titleKey.length))).1 = []
        · rw [if_pos untitled]
          exact ih (room + 1) cleanNext
        · rw [if_neg untitled]
          obtain ⟨bound, titles⟩ := ih room cleanNext
          refine ⟨Nat.succ_le_succ bound, fun title inside => ?_⟩
          rcases List.mem_cons.1 inside with rfl | inside
          · exact ⟨untitled, (nextTitle_ok cleanHit).2, quote_not_mem_nextTitle _⟩
          · exact titles title inside

/-- The rows in use hold titles. -/
theorem rows_of_shown {g : NewsData} {titles : List (List UInt8)} (shown : g.shown = titles)
    (ok : ∀ title ∈ titles, IsTitle title) {i : Nat} (row : i < newsMax) (used : i < g.count) :
    IsTitle g.titles[i].text := by
  apply ok
  rw [← shown, NewsData.shown]
  apply List.mem_map_of_mem
  apply List.mem_take_iff_getElem.2
  refine ⟨i, ?_, rfl⟩
  rw [Vector.length_toList]
  omega

/-- **`parse_news_titles` is safe on arbitrary bytes.** For every text and every `g_news`
before it halts with what the functional parse computes, and faults in none of its steps; it
leaves at most ten titles, the flag set exactly when there is one, and in each row in use a
string that is not empty, ends inside the row and holds no quote. -/
theorem parseNewsTitles_safe (json : CStr) (g : NewsData) :
    ∃ final, Halts (scanStep (memory json)) (scanStart g) final ∧ final.pc = .done ∧
      (∀ s, Leads (scanStep (memory json)) (scanStart g) s → scanStep (memory json) s ≠ .fault) ∧
      final.g = parseNewsTitles json g ∧ final.g.count ≤ newsMax ∧ (final.g.ready = true ↔ 0 < final.g.count) ∧
      ∀ i (row : i < newsMax), i < final.g.count → IsTitle final.g.titles[i].text := by
  obtain ⟨final, halts, finished, result⟩ := scan_halts json g
  obtain ⟨shown, count, ready⟩ := parseNewsTitles_shown json g
  obtain ⟨bound, titles⟩ := titlesFrom_spec (json.1.length + 1) newsMax json.2
  refine ⟨final, halts, finished, fun s reached => halts.no_fault reached, result, ?_, ?_, ?_⟩
  · rw [result, count]
    exact bound
  · rw [result, ready, count, decide_eq_true_iff, List.length_pos_iff]
  · intro i row used
    rw [result] at used ⊢
    exact rows_of_shown shown titles row used

end SmartClock.Net
