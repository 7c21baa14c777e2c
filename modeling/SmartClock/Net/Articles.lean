import SmartClock.Net.NewsBody

/-!
# Article objects

`parse_news_titles` on the articles of the news service itself. Between two titles stands
text without a hit of the key: the members behind the first title, those in front of the
second, and what is left of a title too long for its row. So a pass ends in such a gap,
whatever title it met (`nextTitle_article`), and the next one finds the next article's
title (`find_gap`).
-/

namespace SmartClock.Net

open Text Json

/-- A flat article object: the members before and after its title, and the title. -/
structure Article where
  before : List (Str × Value)
  /-- `none` is `null`. -/
  title : Option Str
  after : List (Str × Value)
  keys : ∀ m ∈ before ++ after, m.1 ≠ str "title" ∧ ∀ c ∈ m.1, c.val ≠ 34 ∧ c.val ≠ 92
  scalars : ∀ m ∈ before ++ after, m.2.isScalar = true
  plainTitle : ∀ t ∈ title, ∀ c ∈ t, plain c = true

namespace Article

def titleValue (a : Article) : Value := a.title.elim .null .str

def toValue (a : Article) : Value := .obj (a.before ++ (str "title", a.titleValue) :: a.after)

end Article

/-- `json.dumps(articles)` -/
def articlesBody (articles : List Article) : CStr := encoded (.arr (articles.map Article.toValue))

/-- The titles that are strings and not empty. -/
def articleTitles (articles : List Article) : List Str :=
  (articles.filterMap Article.title).filter fun t => !t.isEmpty

/-- A title as a row holds it. -/
def rowText (t : Str) : List UInt8 := (t.map fun c => c.val.toUInt8).take (newsTitleLen - 1)

/-! ## Gaps -/

/-- A text without a hit. -/
def Quiet (text : List UInt8) : Prop := find titleKey text = none

theorem key_ne_title {key : Str} (other : key ≠ str "title") : escape key ≠ ascii "title" := by
  have all : (str "title").all plain = true := rfl
  have chars : ∀ c ∈ str "title", plain c = true := List.all_eq_true.1 all
  have named : escape (str "title") = ascii "title" := by decide
  exact fun same => other (eq_of_escape_eq chars (same.trans named.symm))

/-- Another member than the title hides no hit, neither in its value nor in its key. -/
theorem other_member (a : Article) {m : Str × Value} (inside : m ∈ a.before ++ a.after) :
    find titleKey (dumps m.2) = none ∧ escape m.1 ≠ ascii "title" ∧ 34 ∉ escape m.1 := by
  obtain ⟨other, clean⟩ := a.keys m inside
  exact ⟨find_scalar isName_title (a.scalars m inside), key_ne_title other,
    quote_not_mem_escape fun c h => (clean c h).1⟩

theorem quiet_after (a : Article) : Quiet (membersText a.after) := by
  have other {m : Str × Value} (inside : m ∈ a.after) := other_member a (List.mem_append_right _ inside)
  exact find_membersText isName_title (fun _ inside => (other inside).1) fun _ inside => (other inside).2

/-- The search behind a quiet text and a byte that stands between tokens. -/
theorem find_quiet {gap text : List UInt8} {c : UInt8} (quiet : Quiet gap)
    (sep : c ∈ [32, 44, 91, 93, 123, 125]) :
    find titleKey (gap ++ c :: text) = (find titleKey text).map (· + (gap.length + 1)) := by
  rw [titleKey, find_hidden isName_title sep quiet, find_sep isName_title sep, Option.map_map]
  congr 1
  funext i
  simp only [Function.comp_apply]
  omega

/-- Quiet texts on both sides of such a byte. -/
theorem Quiet.append {gap text : List UInt8} {c : UInt8} (quiet : Quiet gap)
    (sep : c ∈ [32, 44, 91, 93, 123, 125]) (quiet' : Quiet text) : Quiet (gap ++ c :: text) := by
  rw [Quiet, find_quiet quiet sep, quiet']
  rfl

/-- The end of a cut title and its closing quote. -/
theorem quiet_one_quote {text : List UInt8} (clean : 34 ∉ text) : Quiet (text ++ [34]) := by
  rw [Quiet, find_eq_none_iff]
  intro j _ occurs
  -- the key has two quotes
  have two : titleKey.count 34 = 2 := by decide
  have one : ((text ++ [34]).drop j).count 34 ≤ 1 := by
    refine ((List.drop_sublist j _).count_le 34).trans ?_
    simp [List.count_eq_zero_of_not_mem clean]
  have := occurs.sublist.count_le 34
  omega

/-! ## One article -/

/-- The text behind the title's key. -/
def behindKey (a : Article) (text : List UInt8) : List UInt8 :=
  32 :: (dumps a.titleValue ++ (dumpsMembers a.after ++ text))

/-- An article's text up to its title. -/
theorem dumps_article (a : Article) (text : List UInt8) :
    dumps a.toValue ++ text = beforeMember a.before ++ (titleKey ++ behindKey a text) := by
  have named : keyPattern (escape (str "title")) = titleKey := by decide
  rw [Article.toValue, dumps_obj_split, named, behindKey]
  simp only [List.append_assoc, List.cons_append]

/-- The first hit in an article is its title's key. -/
theorem find_article (a : Article) (text : List UInt8) :
    find titleKey (dumps a.toValue ++ text) = some (beforeMember a.before).length := by
  apply find_append_left (keyPattern_ne_nil _)
  have other {m : Str × Value} (inside : m ∈ a.before) := other_member a (List.mem_append_left _ inside)
  apply find_member isName_title
  · intro m inside
    exact (other inside).1
  · intro m inside
    exact (other inside).2
  · decide

theorem Quiet.append_membersText {gap : List UInt8} {members : List (Str × Value)} (quiet : Quiet gap)
    (quiet' : Quiet (membersText members)) : Quiet (gap ++ membersText members) := by
  cases members with
  | nil => rwa [show membersText [] = [] from rfl, List.append_nil]
  | cons m members =>
    obtain ⟨text, opens⟩ : ∃ text, membersText (m :: members) = 44 :: text := ⟨_, rfl⟩
    rw [opens] at quiet' ⊢
    rw [Quiet, titleKey, find_hidden isName_title (by decide) quiet]
    exact Option.map_eq_none_iff.2 quiet'

/-- The bytes of a title that needs no escape. -/
theorem title_bytes {a : Article} {t : Str} (has : a.title = some t) :
    escape t = (t.map fun c => c.val.toUInt8) ∧ 34 ∉ escape t := by
  have chars := a.plainTitle t (has ▸ rfl)
  refine ⟨escape_of_plain chars, quote_not_mem_escape fun c inside => ?_⟩
  exact (plain_iff.1 (chars c inside)).2.2.1

/-- The title of a pass over a quoted text, and the pointer behind it. -/
theorem nextTitle_quoted {bytes : List UInt8} (clean : 34 ∉ bytes) (text : List UInt8) :
    nextTitle (32 :: 34 :: (bytes ++ 34 :: text)) =
      (bytes.take (newsTitleLen - 1),
        if bytes.length ≤ newsTitleLen - 1 then text
        else bytes.drop (newsTitleLen - 1) ++ 34 :: text) := by
  have whole : ∀ b ∈ bytes, endsQuoted b = false := fun b inside => by
    simpa [endsQuoted] using fun e : b = 34 => clean (e ▸ inside)
  have title : fieldText newsTitleLen endsQuoted (bytes ++ 34 :: text) = bytes.take (newsTitleLen - 1) := by
    rw [fieldText_append_stop rfl, fieldText_whole whole]
  have skipped : skipBlanks (32 :: 34 :: (bytes ++ 34 :: text)) = 34 :: (bytes ++ 34 :: text) := rfl
  have notNull : ¬ ascii "null" <+: 34 :: (bytes ++ 34 :: text) := by
    rw [show ascii "null" = [110, 117, 108, 108] from rfl, List.cons_prefix_cons]
    exact fun h => absurd h.1 (by decide)
  have quoted : skipQuote (34 :: (bytes ++ 34 :: text)) = bytes ++ 34 :: text := rfl
  unfold nextTitle
  simp only [skipped, notNull, if_false, quoted, title]
  congr 1
  rcases Nat.lt_or_ge (newsTitleLen - 1) bytes.length with long | short
  · have cut : (bytes.take (newsTitleLen - 1)).length = newsTitleLen - 1 := List.length_take_of_le long.le
    rw [if_neg (Nat.not_le.2 long), cut, List.drop_append_of_le_length long.le]
    obtain ⟨b, rest, left⟩ : ∃ b rest, bytes.drop (newsTitleLen - 1) = b :: rest :=
      List.exists_cons_of_ne_nil fun nil => absurd (List.drop_eq_nil_iff.1 nil) (Nat.not_le.2 long)
    have notQuote : b ≠ 34 := by
      rintro rfl
      exact clean (List.mem_of_mem_drop (left ▸ List.mem_cons_self))
    rw [left, List.cons_append, skipQuote, if_neg notQuote]
  · rw [if_pos short, List.take_of_length_le short, List.drop_left]
    rfl

/-- What a pass reads of an article: the title cut to its row, or nothing. It ends in a gap
before the article's closing brace. -/
theorem nextTitle_article (a : Article) (text : List UInt8) :
    ∃ gap, Quiet gap ∧ nextTitle (behindKey a text) = (a.title.elim [] rowText, gap ++ 125 :: text) := by
  have quiet := quiet_after a
  rw [behindKey, dumpsMembers_eq]
  cases has : a.title with
  | none =>
    have value : a.titleValue = .null := by rw [Article.titleValue, has]; rfl
    rw [value]
    exact ⟨_, quiet, rfl⟩
  | some t =>
    obtain ⟨bytes, clean⟩ := title_bytes has
    have value : dumps a.titleValue = 34 :: (escape t ++ [34]) := by
      rw [Article.titleValue, has]; rfl
    have read := nextTitle_quoted clean (membersText a.after ++ 125 :: text)
    rw [value, List.cons_append, List.append_assoc, List.singleton_append, read, Option.elim_some, rowText,
      ← bytes]
    rcases Nat.lt_or_ge (newsTitleLen - 1) (escape t).length with long | short
    · rw [if_neg (Nat.not_le.2 long)]
      have left : Quiet ((escape t).drop (newsTitleLen - 1) ++ [34]) :=
        quiet_one_quote fun inside => clean (List.mem_of_mem_drop inside)
      refine ⟨_, left.append_membersText quiet, ?_⟩
      simp only [List.append_assoc, List.cons_append, List.nil_append]
    · rw [if_pos short]
      exact ⟨_, quiet, rfl⟩

/-! ## The list -/

/-- What a list of articles shows in `room` rows. -/
def shownTitles (room : Nat) (articles : List Article) : List (List UInt8) :=
  ((articleTitles articles).take room).map rowText

/-- The first article takes a row if its title is a string and not empty. -/
theorem shownTitles_succ (room : Nat) (a : Article) (articles : List Article) :
    shownTitles (room + 1) (a :: articles) =
      if a.title.elim [] rowText = [] then shownTitles (room + 1) articles
      else a.title.elim [] rowText :: shownTitles room articles := by
  unfold shownTitles articleTitles
  cases has : a.title with
  | none => rw [List.filterMap_cons_none has, Option.elim_none, if_pos rfl]
  | some t =>
    rw [List.filterMap_cons_some has, Option.elim_some]
    cases t with
    | nil => rfl
    | cons c t => rfl

/-- A pass over the next article, from any text in which its title's key is the next hit. -/
theorem titlesFrom_article {pos text : List UInt8} {i : Nat} (a : Article) (hit : find titleKey pos = some i)
    (behind : pos.drop (i + titleKey.length) = behindKey a text) (passes room : Nat) :
    ∃ gap, Quiet gap ∧ titlesFrom (passes + 1) (room + 1) pos =
      if a.title.elim [] rowText = [] then titlesFrom passes (room + 1) (gap ++ 125 :: text)
      else a.title.elim [] rowText :: titlesFrom passes room (gap ++ 125 :: text) := by
  obtain ⟨gap, quiet, next⟩ := nextTitle_article a text
  refine ⟨gap, quiet, ?_⟩
  rw [titlesFrom, hit]
  dsimp only
  rw [behind, next]

/-- The next hit behind a gap is the next article's title. -/
theorem find_gap {gap : List UInt8} (quiet : Quiet gap) (a : Article) (text : List UInt8) :
    ∃ i, find titleKey (gap ++ 125 :: 44 :: 32 :: (dumps a.toValue ++ text)) = some i ∧
      (gap ++ 125 :: 44 :: 32 :: (dumps a.toValue ++ text)).drop (i + titleKey.length) = behindKey a text := by
  refine ⟨(beforeMember a.before).length + 2 + (gap.length + 1), ?_, ?_⟩
  · rw [find_quiet quiet (by decide), titleKey, find_comma_blank isName_title]
    rw [← titleKey, find_article]
    rfl
  · have front : gap ++ 125 :: 44 :: 32 :: (dumps a.toValue ++ text) =
        (gap ++ 125 :: 44 :: 32 :: beforeMember a.before ++ titleKey) ++ behindKey a text := by
      rw [dumps_article]
      simp only [List.append_assoc, List.cons_append]
    have length : (beforeMember a.before).length + 2 + (gap.length + 1) + titleKey.length =
        (gap ++ 125 :: 44 :: 32 :: beforeMember a.before ++ titleKey).length := by
      simp only [List.length_append, List.length_cons]
      omega
    rw [front, length, List.drop_left]

/-- Behind a gap, the loop finds the titles of the articles left. -/
theorem titlesFrom_gap (articles : List Article) {passes : Nat} (enough : articles.length < passes)
    (room : Nat) {gap : List UInt8} (quiet : Quiet gap) :
    titlesFrom passes room (gap ++ 125 :: dumpsItems (articles.map Article.toValue)) =
      shownTitles room articles := by
  induction articles generalizing passes room gap with
  | nil =>
    obtain ⟨passes, rfl⟩ : ∃ left, passes = left + 1 := ⟨passes - 1, by omega⟩
    have unfound : find titleKey (gap ++ 125 :: dumpsItems []) = none :=
      quiet.append (by decide) (find_quoteless (by decide))
    cases room with
    | zero => rfl
    | succ room =>
      rw [List.map_nil, titlesFrom, unfound]
      rfl
  | cons a articles ih =>
    rw [List.length_cons] at enough
    obtain ⟨passes, rfl⟩ : ∃ left, passes = left + 1 := ⟨passes - 1, by omega⟩
    cases room with
    | zero => rfl
    | succ room =>
      have text : dumpsItems ((a :: articles).map Article.toValue) =
          44 :: 32 :: (dumps a.toValue ++ dumpsItems (articles.map Article.toValue)) := rfl
      obtain ⟨i, hit, behind⟩ := find_gap quiet a (dumpsItems (articles.map Article.toValue))
      obtain ⟨gap', quiet', pass⟩ := titlesFrom_article a hit behind passes room
      rw [text, pass, shownTitles_succ, ih (by omega) _ quiet', ih (by omega) _ quiet']

theorem length_le_dumpsItems (values : List Value) : values.length ≤ (dumpsItems values).length := by
  induction values with
  | nil => exact Nat.zero_le _
  | cons v values ih =>
    have text : dumpsItems (v :: values) = 44 :: 32 :: (dumps v ++ dumpsItems values) := rfl
    rw [text]
    simp only [List.length_cons, List.length_append]
    omega

/-- The titles in a list of articles. -/
theorem titlesIn_articles (articles : List Article) :
    titlesIn (articlesBody articles).1 = shownTitles newsMax articles := by
  cases articles with
  | nil => rfl
  | cons a articles =>
    have text : (articlesBody (a :: articles)).1 =
        91 :: (dumps a.toValue ++ dumpsItems (articles.map Article.toValue)) := rfl
    have hit : find titleKey (91 :: (dumps a.toValue ++ dumpsItems (articles.map Article.toValue))) =
        some ((beforeMember a.before).length + 1) := by
      rw [titleKey, find_sep isName_title (by decide), ← titleKey, find_article]
      rfl
    have behind : (91 :: (dumps a.toValue ++ dumpsItems (articles.map Article.toValue))).drop
        ((beforeMember a.before).length + 1 + titleKey.length) =
          behindKey a (dumpsItems (articles.map Article.toValue)) := by
      rw [dumps_article, Nat.add_right_comm, List.drop_succ_cons, ← List.length_append,
        ← List.append_assoc, List.drop_left]
    have enough := length_le_dumpsItems (articles.map Article.toValue)
    rw [List.length_map] at enough
    have below : articles.length < (dumps a.toValue ++ dumpsItems (articles.map Article.toValue)).length + 1 := by
      rw [List.length_append]
      omega
    obtain ⟨gap, quiet, pass⟩ := titlesFrom_article a hit behind
      ((dumps a.toValue ++ dumpsItems (articles.map Article.toValue)).length + 1) 9
    rw [titlesIn, text, List.length_cons, show newsMax = 9 + 1 from rfl, pass, shownTitles_succ,
      titlesFrom_gap articles below _ quiet, titlesFrom_gap articles below _ quiet]

/-- **The titles of article objects.** Whatever was stored before, the decoder stores the first
ten titles that are strings and not empty, in order, each cut to its row. -/
theorem parseNewsTitles_articles (articles : List Article) (g : NewsData) :
    let g' := parseNewsTitles (articlesBody articles) g
    g'.shown = ((articleTitles articles).take newsMax).map rowText ∧
      g'.count = ((articleTitles articles).take newsMax).length ∧ (g'.ready = true ↔ 0 < g'.count) := by
  obtain ⟨shown, count, ready⟩ := parseNewsTitles_shown (articlesBody articles) g
  rw [titlesIn_articles] at shown count ready
  dsimp only
  rw [shown, count, ready]
  refine ⟨rfl, List.length_map _, ?_⟩
  rw [decide_eq_true_iff, ← List.length_pos_iff]

/-- A name of plain characters is a key that an article may have beside its title. -/
theorem plain_key {key : Str} (other : key ≠ str "title") (chars : key.all plain = true) :
    key ≠ str "title" ∧ ∀ c ∈ key, c.val ≠ 34 ∧ c.val ≠ 92 :=
  ⟨other, fun c inside => (plain_iff.1 (List.all_eq_true.1 chars c inside)).2.2⟩

/-- An article without a title, whose content has the text of the key. -/
def untitled : Article where
  before := [(str "content", .str (str "so \"title\": \"Rain\""))]
  title := none
  after := [(str "author", .null)]
  keys := List.forall_mem_cons.2 ⟨plain_key (by decide) rfl,
    List.forall_mem_singleton.2 (plain_key (by decide) rfl)⟩
  scalars := by decide
  plainTitle := nofun

def emptyTitle : Article where
  before := [(str "author", .null)]
  title := some []
  after := []
  keys := List.forall_mem_singleton.2 (plain_key (by decide) rfl)
  scalars := by decide
  plainTitle := by simp

/-- A title of more than a row. -/
def longTitle : Article where
  before := []
  title := some (List.replicate 90 (codePoint 'a'))
  after := [(str "url", .str (str "/a"))]
  keys := List.forall_mem_singleton.2 (plain_key (by decide) rfl)
  scalars := by decide
  plainTitle := by
    intro t has c inside
    obtain rfl := Option.some.inj has
    rw [List.eq_of_mem_replicate inside]
    decide

theorem parseNewsTitles_articles_three :
    let g := parseNewsTitles (articlesBody [untitled, emptyTitle, longTitle]) gNews
    g.shown = [List.replicate 79 97] ∧ g.count = 1 ∧ g.ready = true := by
  obtain ⟨shown, count, ready⟩ := parseNewsTitles_articles [untitled, emptyTitle, longTitle] gNews
  have one : (parseNewsTitles (articlesBody [untitled, emptyTitle, longTitle]) gNews).count = 1 := count
  refine ⟨shown.trans (by decide +kernel), one, ready.2 (by omega)⟩

end SmartClock.Net
