import SmartClock.Net.TitleScanner
import SmartClock.Screen.InfoScreens

/-!
# The news screen

`screen_show_news` copies the titles under `news_mutex` with `strncpy` and shows each on one or
two pages of sixteen bytes. For whatever `parse_news_titles` leaves, no copy and no page goes
past a row, and the pages show the first thirty-two bytes of every title (`news_pages`). The call
in `screen_thread_entry` is commented out, so no run of that thread shows these pages.
-/

namespace SmartClock.Screen

open Text Lcd Net

/-- `strncpy(dest, src, n)` inside of both arrays: the string up to `n` bytes, then NULs. -/
def strncpy {size : Nat} (dest src : CharArray size) (n : Nat) : CharArray size :=
  .ofFn fun i => if i.val < n then ((src.toList.take n).takeWhile (· != 0))[i.val]?.getD 0 else dest[i]

/-- One pass of the copy loop: `strncpy`, and a NUL in the last byte. -/
def copyTitle (dest src : NewsTitle) : NewsTitle :=
  (strncpy dest src (newsTitleLen - 1)).set (newsTitleLen - 1) 0 (by decide)

/-- `news_snapshot` behind the copy loop. -/
def copyTitles (snapshot : Vector NewsTitle newsMax) (g : NewsData) : Vector NewsTitle newsMax :=
  .ofFn fun i => if i.val < g.count then copyTitle snapshot[i] g.titles[i] else snapshot[i]

/-- `%.ns` of a string in memory. -/
def chars (n : Nat) (bytes : List UInt8) : List UInt8 := (bytes.take n).takeWhile (· != 0)

/-- `"News %d/%d"` -/
def newsLabel (i count : Nat) : List UInt8 :=
  ascii "News " ++ printD ((i + 1 : Nat) : Int) ++ [47] ++ printD (count : Int)

/-- One pass of the loop over the titles. `none` is a `strlen` past the row. -/
def titlePages (count i : Nat) (title : NewsTitle) : Option (List Page) := do
  let text ← cstr title.toList
  let first : Page := ⟨lineStr (newsLabel i count), lineStr (chars 16 title.toList)⟩
  let second : Page := ⟨lineStr (newsLabel i count), lineStr (chars 16 (title.toList.drop 16))⟩
  return if text.1.length > 16 then [first, second] else [first]

/-- The loop over the titles, from the `i`-th on. -/
def newsLoop (count : Nat) : Nat → List NewsTitle → Option (List Page)
  | _, [] => some []
  | i, title :: rest => do
    let here ← titlePages count i title
    let later ← newsLoop count (i + 1) rest
    return here ++ later

/-- `screen_show_news`, told `g_news` if it gets the lock, and what `news_snapshot` held. `none` is
an access past an array. -/
def screenShowNews (news : Option NewsData) (snapshot : Vector NewsTitle newsMax) : Option (List Page) :=
  match news with
  | none => some [noDataYet (ascii "News:")]
  | some g =>
    if g.ready = false ∨ g.count = 0 then some [noDataYet (ascii "News:")]
    else if g.count ≤ newsMax then newsLoop g.count 0 ((copyTitles snapshot g).toList.take g.count)
    else none

/-! ## The copies -/

theorem text_copyTitle {title : NewsTitle} (short : title.text.length < newsTitleLen) (dest : NewsTitle) :
    (copyTitle dest title).text = title.text := by
  have clean : 0 ∉ title.text := zero_not_mem_takeWhile title.toList
  have room : title.text.length ≤ newsTitleLen - 1 := Nat.le_sub_one_of_lt short
  have copied : (title.toList.take (newsTitleLen - 1)).takeWhile (· != 0) = title.text := by
    rw [← List.take_takeWhile]
    exact List.take_of_length_le room
  have stored : copyTitle dest title = storeText (Vector.replicate newsTitleLen 0) title.text := by
    apply Vector.ext
    intro i hi
    rw [copyTitle, Vector.getElem_set, storeText, Vector.getElem_ofFn, strncpy, Vector.getElem_ofFn]
    dsimp only
    rw [copied]
    by_cases inside : i < title.text.length
    · rw [dif_pos inside, if_neg (by omega), if_pos (by omega), List.getElem?_eq_getElem inside]
      rfl
    · have zero : (Vector.replicate newsTitleLen (0 : UInt8))[i] = 0 := Vector.getElem_replicate hi
      rw [dif_neg inside]
      by_cases last : newsTitleLen - 1 = i
      · rw [if_pos last]
        split
        · rfl
        · exact zero.symm
      · rw [if_neg last, if_pos (by omega), List.getElem?_eq_none (by omega)]
        split
        · rfl
        · exact zero.symm
  rw [stored]
  exact text_storeText _ short clean

theorem getElem_copyTitles {g : NewsData} {snapshot : Vector NewsTitle newsMax} {i : Nat} (row : i < newsMax) :
    (copyTitles snapshot g)[i] = if i < g.count then copyTitle snapshot[i] g.titles[i] else snapshot[i] :=
  Vector.getElem_ofFn row

/-- The rows the screen copies have the titles of `g_news`. -/
theorem texts_copyTitles {g : NewsData} (bound : g.count ≤ newsMax)
    (short : ∀ title ∈ g.shown, title.length < newsTitleLen) (snapshot : Vector NewsTitle newsMax) :
    ((copyTitles snapshot g).toList.take g.count).map CharArray.text = g.shown := by
  apply List.ext_getElem
  · simp [NewsData.shown]
  · intro i below inside
    rw [List.length_map, List.length_take, Vector.length_toList] at below
    have row : i < newsMax := by omega
    have used : i < g.count := by omega
    have title : g.shown[i] = g.titles[i].text := by simp [NewsData.shown]
    have fits : g.titles[i].text.length < newsTitleLen := by
      apply short
      rw [← title]
      exact List.getElem_mem inside
    rw [title, List.getElem_map, List.getElem_take, Vector.getElem_toList, getElem_copyTitles row, if_pos used]
    exact text_copyTitle fits _

/-! ## The pages -/

/-- The rows about one title. -/
def titleRows (count i : Nat) (title : List UInt8) : List (List UInt8 × List UInt8) :=
  (cells (newsLabel i count), cells (title.take 16)) ::
    if title.length > 16 then [(cells (newsLabel i count), cells ((title.drop 16).take 16))] else []

/-- The rows about the titles, from the `i`-th on. -/
def newsRowsFrom (count : Nat) : Nat → List (List UInt8) → List (List UInt8 × List UInt8)
  | _, [] => []
  | i, title :: rest => titleRows count i title ++ newsRowsFrom count (i + 1) rest

/-- The rows the screen should show one after the other. -/
def newsRows (titles : List (List UInt8)) : List (List UInt8 × List UInt8) :=
  if titles = [] then [(cells (ascii "News:"), cells (ascii "No data yet"))]
  else newsRowsFrom titles.length 0 titles

theorem zero_not_mem_newsLabel (i count : Nat) : 0 ∉ newsLabel i count := by
  simp only [newsLabel, List.mem_append, not_or]
  exact ⟨⟨⟨by decide, zero_not_mem_printD _⟩, by decide⟩, zero_not_mem_printD _⟩

/-- A page of the news screen shows its label and its part of the title. -/
theorem rows_part (i count : Nat) (bytes : List UInt8) :
    Page.rows ⟨lineStr (newsLabel i count), lineStr (chars 16 bytes)⟩ =
      (cells (newsLabel i count), cells (chars 16 bytes)) := by
  rw [Page.rows, padded_lineStr (zero_not_mem_newsLabel i count)]
  have clean : 0 ∉ chars 16 bytes := zero_not_mem_takeWhile _
  rw [padded_lineStr clean]

section Title

variable {title : NewsTitle}

theorem chars_front : chars 16 title.toList = title.text.take 16 := List.take_takeWhile.symm

theorem chars_rest (short : title.text.length < newsTitleLen) (long : title.text.length > 16) :
    chars 16 (title.toList.drop 16) = (title.text.drop 16).take 16 := by
  obtain ⟨rest, list⟩ := CharArray.toList_eq_text short
  have clean : 0 ∉ title.text.drop 16 := fun inside => zero_not_mem_takeWhile _ (List.mem_of_mem_drop inside)
  have whole : (title.toList.drop 16).takeWhile (· != 0) = title.text.drop 16 := by
    rw [list, List.drop_append_of_le_length (Nat.le_of_lt long)]
    exact takeWhile_append_all (fun b inside => by simpa using fun e : b = 0 => clean (e ▸ inside)) rfl
  rw [chars, ← List.take_takeWhile, whole]

/-- One title on its pages. -/
theorem titlePages_rows (short : title.text.length < newsTitleLen) (count i : Nat) :
    ∃ pages, titlePages count i title = some pages ∧ pages.map Page.rows = titleRows count i title.text := by
  obtain ⟨rest, list⟩ := CharArray.toList_eq_text short
  have nul : 0 ∈ title.toList := by
    rw [list]
    exact List.mem_append_right _ List.mem_cons_self
  have string : cstr title.toList = some (upToZero title.toList) := if_pos nul
  have length : (upToZero title.toList).1.length = title.text.length := rfl
  rw [titlePages, string]
  refine ⟨_, rfl, ?_⟩
  by_cases long : title.text.length > 16
  · rw [length, if_pos long, titleRows, if_pos long, List.map_cons, List.map_cons, List.map_nil, rows_part,
      rows_part, chars_front, chars_rest short long]
  · rw [length, if_neg long, titleRows, if_neg long, List.map_cons, List.map_nil, rows_part, chars_front]

end Title

/-- The titles on their pages, from the `i`-th on. -/
theorem newsLoop_rows (count : Nat) {titles : List NewsTitle}
    (short : ∀ title ∈ titles, title.text.length < newsTitleLen) (i : Nat) :
    ∃ pages, newsLoop count i titles = some pages ∧
      pages.map Page.rows = newsRowsFrom count i (titles.map CharArray.text) := by
  induction titles generalizing i with
  | nil => exact ⟨[], rfl, rfl⟩
  | cons title rest ih =>
    obtain ⟨here, first, rowsHere⟩ := titlePages_rows (short title List.mem_cons_self) count i
    obtain ⟨later, others, rowsLater⟩ := ih (fun t inside => short t (List.mem_cons_of_mem _ inside)) (i + 1)
    refine ⟨here ++ later, ?_, ?_⟩
    · rw [newsLoop, first, others]
      rfl
    · rw [List.map_append, rowsHere, rowsLater]
      rfl

/-- What the bodies parsed so far leave in `g_news`. -/
def newsAfter (bodies : List CStr) : NewsData := bodies.foldl (fun g json => parseNewsTitles json g) gNews

/-- The titles of the last body. -/
def lastTitles (bodies : List CStr) : List (List UInt8) :=
  match bodies.getLast? with
  | some json => titlesIn json.1
  | none => []

/-- `g_news` holds the titles of the last body. -/
theorem newsAfter_shown (bodies : List CStr) :
    (newsAfter bodies).shown = lastTitles bodies ∧ (newsAfter bodies).count = (lastTitles bodies).length ∧
      (newsAfter bodies).ready = decide (lastTitles bodies ≠ []) := by
  cases bodies using List.reverseRecOn with
  | nil => exact ⟨rfl, rfl, rfl⟩
  | append_singleton earlier json =>
    rw [newsAfter, List.foldl_append, lastTitles, List.getLast?_concat]
    exact parseNewsTitles_shown json _

theorem lastTitles_spec (bodies : List CStr) :
    (lastTitles bodies).length ≤ newsMax ∧ ∀ title ∈ lastTitles bodies, IsTitle title := by
  unfold lastTitles
  split
  · rename_i json _
    exact titlesFrom_spec _ newsMax json.2
  · exact ⟨Nat.zero_le _, List.forall_mem_nil _⟩

/-- **The news screen shows the last body's titles**: whatever bodies `parse_news_titles` was
given and whatever the row copies held, the screen stays inside of its arrays. Its pages show
each title of the last body under its number, the first thirty-two bytes of it. -/
theorem news_pages (other : Write → Display → Display) (bodies : List CStr)
    (snapshot : Vector NewsTitle newsMax) (d : Display) :
    ∃ pages, screenShowNews (some (newsAfter bodies)) snapshot = some pages ∧
      pages.map (fun p => rows (receiveAll other p.writes d)) = newsRows (lastTitles bodies) := by
  obtain ⟨shown, count, ready⟩ := newsAfter_shown bodies
  obtain ⟨bound, titles⟩ := lastTitles_spec bodies
  have displayed (pages : List Page) :
      pages.map (fun p => rows (receiveAll other p.writes d)) = pages.map Page.rows := by
    apply List.map_congr_left
    intro p _
    exact rows_writes other p d
  simp only [displayed]
  by_cases nothing : lastTitles bodies = []
  · have noTitle : (newsAfter bodies).count = 0 := by rw [count, nothing, List.length_nil]
    refine ⟨_, if_pos (.inr noTitle), ?_⟩
    rw [newsRows, if_pos nothing, List.map_cons, List.map_nil, rows_noDataYet (by decide)]
  · have titled : (newsAfter bodies).count ≠ 0 := by
      rw [count]
      exact fun noTitle => nothing (List.length_eq_zero_iff.1 noTitle)
    have there : ¬((newsAfter bodies).ready = false ∨ (newsAfter bodies).count = 0) := by
      rw [ready, decide_eq_true nothing]
      exact fun h => h.elim Bool.noConfusion titled
    have inside : (newsAfter bodies).count ≤ newsMax := count ▸ bound
    have copied := texts_copyTitles inside (fun title h => (titles title (shown ▸ h)).fits) snapshot
    rw [shown] at copied
    have short : ∀ title ∈ (copyTitles snapshot (newsAfter bodies)).toList.take (newsAfter bodies).count,
        title.text.length < newsTitleLen := by
      intro title h
      apply IsTitle.fits
      apply titles
      rw [← copied]
      exact List.mem_map_of_mem h
    obtain ⟨pages, loop, shows⟩ := newsLoop_rows (newsAfter bodies).count short 0
    refine ⟨pages, ?_, ?_⟩
    · rw [screenShowNews, if_neg there, if_pos inside]
      exact loop
    · rw [shows, copied, count, newsRows, if_neg nothing]

end SmartClock.Screen
