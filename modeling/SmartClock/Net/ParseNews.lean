import SmartClock.Net.ParseInfo

/-!
# `parse_news_titles`

The scanner of `networking_config_news.c`: the quoted text behind every hit of `"title":`,
up to ten of them, empty ones skipped. `titlesIn` is the list of titles a text shows;
`parseNewsTitles_shown` says that the loop leaves exactly these. The loop is bounded by the
text's length, which it never reaches (`titleLoop_enough`).
-/

namespace SmartClock.Net

open Text Json

/-- `"\"title\":"` -/
def titleKey : List UInt8 := keyPattern (ascii "title")

/-- `if (*pos == '"') pos++;` -/
def skipQuote : List UInt8 → List UInt8
  | [] => []
  | b :: pos => if b = 34 then pos else b :: pos

/-- One pass of the loop from behind a hit: the pointer and `g_news` after it. -/
def scanTitle (pos : List UInt8) (g : NewsData) (room : g.count < newsMax) : List UInt8 × NewsData :=
  let pos := skipBlanks pos
  if ascii "null" <+: pos then (pos.drop 4, g)
  else
    let (title, i, pos) := copyField (by decide) endsQuoted g.titles[g.count] (skipQuote pos)
    let g' := { g with titles := g.titles.set g.count title }
    (skipQuote pos, if i > 0 then { g' with count := g.count + 1 } else g')

/-- The loop. A pass moves the pointer past a key, so the number of bytes left bounds the
passes left. -/
def titleLoop : Nat → List UInt8 → NewsData → NewsData
  | 0, _, g => g
  | passes + 1, pos, g =>
    if room : g.count < newsMax then
      match find titleKey pos with
      | none => g
      | some i =>
        let (pos, g) := scanTitle (pos.drop (i + titleKey.length)) g room
        titleLoop passes pos g
    else g

/-- `parse_news_titles`, between `news_mutex`'s lock and unlock. -/
def parseNewsTitles (json : CStr) (g : NewsData) : NewsData :=
  let g := titleLoop (json.1.length + 1) json.1 { g with count := 0, ready := false }
  if g.count > 0 then { g with ready := true } else g

/-! ## The titles of a text -/

/-- The title behind a hit, empty for `null`, and the pointer after it. -/
def nextTitle (pos : List UInt8) : List UInt8 × List UInt8 :=
  let pos := skipBlanks pos
  if ascii "null" <+: pos then ([], pos.drop 4)
  else
    let title := fieldText newsTitleLen endsQuoted (skipQuote pos)
    (title, skipQuote ((skipQuote pos).drop title.length))

/-- The nonempty titles of a text, at most `room` of them, in at most `passes` passes. -/
def titlesFrom : Nat → Nat → List UInt8 → List (List UInt8)
  | 0, _, _ => []
  | _, 0, _ => []
  | passes + 1, room + 1, pos =>
    match find titleKey pos with
    | none => []
    | some i =>
      let (title, pos) := nextTitle (pos.drop (i + titleKey.length))
      if title = [] then titlesFrom passes (room + 1) pos else title :: titlesFrom passes room pos

/-- The titles `parse_news_titles` finds in a body. -/
def titlesIn (json : List UInt8) : List (List UInt8) := titlesFrom (json.length + 1) newsMax json

/-- The titles `g_news` shows. -/
def NewsData.shown (g : NewsData) : List (List UInt8) := (g.titles.toList.take g.count).map CharArray.text

/-- A write to the row behind the titles is not shown. -/
theorem shown_write (g : NewsData) (room : g.count < newsMax) (title : NewsTitle) :
    { g with titles := g.titles.set g.count title }.shown = g.shown := by
  simp only [NewsData.shown, Vector.toList_set]
  rw [List.take_set_of_le (Nat.le_refl _)]

/-- A write to that row, and the count. -/
theorem shown_add (g : NewsData) (room : g.count < newsMax) (title : NewsTitle) :
    { g with titles := g.titles.set g.count title, count := g.count + 1 }.shown = g.shown ++ [title.text] := by
  have inside : g.count < (g.titles.toList.set g.count title).length := by simpa using room
  simp only [NewsData.shown, Vector.toList_set]
  rw [List.take_add_one, List.getElem?_eq_getElem inside, List.getElem_set_self,
    List.take_set_of_le (Nat.le_refl _)]
  simp

theorem skipQuote_sublist (pos : List UInt8) : (skipQuote pos).Sublist pos := by
  cases pos with
  | nil => exact List.Sublist.refl _
  | cons b pos =>
    rw [skipQuote]
    split
    · exact List.sublist_cons_self b pos
    · exact List.Sublist.refl _

theorem nextTitle_sublist (pos : List UInt8) : (nextTitle pos).2.Sublist pos := by
  have skipped := skipBlanks_sublist pos
  unfold nextTitle
  dsimp only
  split
  · exact (List.drop_sublist _ _).trans skipped
  · exact (skipQuote_sublist _).trans ((List.drop_sublist _ _).trans ((skipQuote_sublist _).trans skipped))

theorem nextTitle_ok {pos : List UInt8} (clean : 0 ∉ pos) :
    0 ∉ (nextTitle pos).1 ∧ (nextTitle pos).1.length < newsTitleLen := by
  have source := (skipQuote_sublist _).trans (skipBlanks_sublist pos)
  unfold nextTitle
  dsimp only
  split
  · exact ⟨List.not_mem_nil, show 0 < newsTitleLen by decide⟩
  · exact ⟨zero_not_mem_fieldText fun inside => clean (source.subset inside),
      length_fieldText_lt (by decide) _ _⟩

/-- One pass: the pointer of `nextTitle`, and its title if it is not empty. -/
theorem scanTitle_shown {pos : List UInt8} (clean : 0 ∉ pos) {g : NewsData} (room : g.count < newsMax) :
    let title := (nextTitle pos).1
    (scanTitle pos g room).1 = (nextTitle pos).2 ∧ (scanTitle pos g room).2.ready = g.ready ∧
      (title = [] → (scanTitle pos g room).2.shown = g.shown ∧ (scanTitle pos g room).2.count = g.count) ∧
      (title ≠ [] → (scanTitle pos g room).2.shown = g.shown ++ [title] ∧
        (scanTitle pos g room).2.count = g.count + 1) := by
  obtain ⟨titleClean, titleFits⟩ := nextTitle_ok clean
  revert titleClean titleFits
  unfold scanTitle nextTitle
  dsimp only
  split
  · intro _ _
    exact ⟨rfl, rfl, fun _ => ⟨rfl, rfl⟩, fun nonempty => absurd rfl nonempty⟩
  · intro titleClean titleFits
    rw [copyField_eq]
    dsimp only
    generalize fieldText newsTitleLen endsQuoted (skipQuote (skipBlanks pos)) = title at titleClean titleFits ⊢
    cases title with
    | nil => exact ⟨rfl, rfl, fun _ => ⟨shown_write g room _, rfl⟩, fun nonempty => absurd rfl nonempty⟩
    | cons b title =>
      refine ⟨rfl, rfl, fun nil => absurd nil (List.cons_ne_nil b title), fun _ => ⟨?_, rfl⟩⟩
      have added := shown_add g room (storeText g.titles[g.count] (b :: title))
      rwa [text_storeText _ titleFits titleClean] at added

/-- The pointer only moves forward. -/
theorem scanTitle_length_le (pos : List UInt8) (g : NewsData) (room : g.count < newsMax) :
    (scanTitle pos g room).1.length ≤ pos.length := by
  have pointer : (scanTitle pos g room).1 = (nextTitle pos).2 := by
    unfold scanTitle nextTitle
    dsimp only
    split
    · rfl
    · rw [copyField_eq]
  rw [pointer]
  exact (nextTitle_sublist pos).length_le

/-- The loop appends the titles of the text. -/
theorem titleLoop_shown (passes : Nat) {pos : List UInt8} (clean : 0 ∉ pos) {g : NewsData}
    (bound : g.count ≤ newsMax) :
    let titles := titlesFrom passes (newsMax - g.count) pos
    (titleLoop passes pos g).shown = g.shown ++ titles ∧
      (titleLoop passes pos g).count = g.count + titles.length ∧
      (titleLoop passes pos g).ready = g.ready := by
  induction passes generalizing pos g with
  | zero => simp [titleLoop, titlesFrom]
  | succ passes ih =>
    by_cases room : g.count < newsMax
    · obtain ⟨left, leftEq⟩ : ∃ left, newsMax - g.count = left + 1 := ⟨newsMax - g.count - 1, by omega⟩
      dsimp only
      rw [leftEq, titleLoop, dif_pos room, titlesFrom]
      cases hit : find titleKey pos with
      | none => simp
      | some i =>
        have cleanHit : 0 ∉ pos.drop (i + titleKey.length) := fun inside => clean (List.mem_of_mem_drop inside)
        obtain ⟨pointer, ready, empty, nonempty⟩ := scanTitle_shown cleanHit room
        have cleanNext : 0 ∉ (nextTitle (pos.drop (i + titleKey.length))).2 := fun inside =>
          cleanHit ((nextTitle_sublist _).subset inside)
        dsimp only
        rw [pointer]
        by_cases untitled : (nextTitle (pos.drop (i + titleKey.length))).1 = []
        · obtain ⟨shown, count⟩ := empty untitled
          have rest := ih cleanNext (count ▸ bound)
          simp only [count, leftEq, shown, ready] at rest
          rw [if_pos untitled]
          exact rest
        · obtain ⟨shown, count⟩ := nonempty untitled
          have rest := ih cleanNext (g := (scanTitle (pos.drop (i + titleKey.length)) g room).2) (by omega)
          have leftEq' : newsMax - (g.count + 1) = left := by omega
          simp only [count, leftEq', shown, ready] at rest
          rw [if_neg untitled]
          simpa [Nat.add_assoc, Nat.add_comm 1] using rest
    · have full : newsMax - g.count = 0 := by omega
      dsimp only
      rw [full, titleLoop, dif_neg room]
      simp [titlesFrom]

/-- **What `parse_news_titles` leaves**: the titles of the body, whatever was there before. -/
theorem parseNewsTitles_shown (json : CStr) (g : NewsData) :
    (parseNewsTitles json g).shown = titlesIn json.1 ∧
      (parseNewsTitles json g).count = (titlesIn json.1).length ∧
      (parseNewsTitles json g).ready = decide (titlesIn json.1 ≠ []) := by
  obtain ⟨shown, count, ready⟩ := titleLoop_shown (json.1.length + 1) json.2
    (g := { g with count := 0, ready := false }) (Nat.zero_le _)
  have nothing : { g with count := 0, ready := false }.shown = [] := by simp [NewsData.shown]
  rw [nothing, List.nil_append] at shown
  rw [Nat.zero_add] at count
  have found : (titlesIn json.1).length > 0 ↔ titlesIn json.1 ≠ [] := List.length_pos_iff
  unfold parseNewsTitles
  dsimp only
  split
  · rename_i counted
    rw [count] at counted
    exact ⟨shown, count, (decide_eq_true (found.1 counted)).symm⟩
  · rename_i uncounted
    rw [count] at uncounted
    exact ⟨shown, count, ready.trans (decide_eq_false fun counted => uncounted (found.2 counted)).symm⟩

/-- The bound on the passes is never reached: with more of them the loop does the same. -/
theorem titleLoop_enough {passes : Nat} {pos : List UInt8} (enough : pos.length < passes) (g : NewsData) :
    titleLoop (passes + 1) pos g = titleLoop passes pos g := by
  induction passes generalizing pos g with
  | zero => cases enough
  | succ passes ih =>
    rw [titleLoop, titleLoop]
    split
    · rename_i room
      cases hit : find titleKey pos with
      | none => rfl
      | some i =>
        have key : i + titleKey.length ≤ pos.length := find_le hit
        have keyLong : 0 < titleKey.length := by decide
        have shorter := scanTitle_length_le (pos.drop (i + titleKey.length)) g room
        rw [List.length_drop] at shorter
        have fewer : (scanTitle (pos.drop (i + titleKey.length)) g room).1.length < passes := by omega
        exact ih fewer _
    · rfl

end SmartClock.Net
