import SmartClock.Lists.FirstOccurrences
import SmartClock.Proxy.News

/-!
# The titles the proxy lists

The two nested loops of `news` over an upstream document of any shape are one loop that
keeps first occurrences over the titles of the document (`collectTitles_eq`).
-/

namespace SmartClock.Proxy

open Text Json

/-- The non-empty title of an article object. Any other element has none. -/
def articleTitle : Value → Option Value
  | .obj members => (members.lookup (str "title")).filter truthy
  | _ => none

/-- The elements `news` looks at: those of the top-level list, or of the lists that are
direct members of the top-level object, in member order. -/
def listed : Value → List Value
  | .arr items => items
  | .obj members => members.flatMap fun member =>
    match member.2 with
    | .arr items => items
    | _ => []
  | _ => []

/-- All titles of the upstream document, repeated ones too. -/
def upstreamTitles (newsData : Value) : List Value := (listed newsData).filterMap articleTitle

theorem flatten_possibleLists (newsData : Value) : (possibleLists newsData).flatten = listed newsData := by
  cases newsData with
  | arr items => exact List.append_nil items
  | obj members =>
    induction members with
    | nil => rfl
    | cons member members ih =>
      obtain ⟨key, value⟩ := member
      cases value with
      | arr items => exact congrArg (items ++ ·) ih
      | null | bool _ | num _ | str _ | obj _ => exact ih
  | null | bool _ | num _ | str _ => rfl

/-- An element adds its title, if it has one, unless the title is listed. -/
theorem addTitle_eq (numEq : Number → Number → Bool) (titles : List Value) (article : Value) :
    addTitle numEq titles article =
      match articleTitle article with
      | some title => Lists.addNew (equals numEq) titles title
      | none => titles := by
  cases article with
  | obj members =>
    rw [addTitle, articleTitle]
    cases found : members.lookup (str "title") with
    | none => rfl
    | some title =>
      rw [Option.getD_some, Option.filter_some]
      cases full : truthy title with
      | false => rfl
      | true =>
        rw [Bool.true_and, if_pos rfl]
        dsimp only [Lists.addNew]
        cases titles.any (equals numEq title) <;> rfl
  | null | bool _ | num _ | str _ | arr _ => rfl

/-- The loop over one list of articles. -/
theorem foldl_addTitle (numEq : Number → Number → Bool) (articles titles : List Value) :
    articles.foldl (addTitle numEq) titles =
      (articles.filterMap articleTitle).foldl (Lists.addNew (equals numEq)) titles := by
  induction articles generalizing titles with
  | nil => rfl
  | cons article articles ih =>
    rw [List.foldl_cons, ih, addTitle_eq]
    cases title : articleTitle article with
    | none => rw [List.filterMap_cons_none title]
    | some title' => rw [List.filterMap_cons_some title, List.foldl_cons]

/-- Both loops keep the first occurrence of every title. -/
theorem collectTitles_eq (numEq : Number → Number → Bool) (newsData : Value) :
    collectTitles numEq newsData = (upstreamTitles newsData).eraseDupsBy (equals numEq) := by
  rw [collectTitles, ← List.foldl_flatten, flatten_possibleLists, foldl_addTitle, upstreamTitles,
    Lists.foldl_addNew_nil]

/-- A 200 answer comes from an answer of the news service. -/
theorem news_upstream {w : NewsWorld} (ok : (news w).status = 200) :
    ∃ newsData, w.newsApi (newsParams w) = .ok newsData ∧
      news w = respond (newsObject (collectTitles w.numEq newsData)) 200 := by
  unfold news tryNews at ok ⊢
  cases upstream : w.newsApi (newsParams w) with
  | error text =>
    rw [upstream] at ok
    exact absurd (show (500 : Nat) = 200 from ok) (by decide)
  | ok newsData => exact ⟨newsData, rfl, rfl⟩

/-- **The proxy loses and repeats no title.** A 200 answer lists the titles of the upstream
document in order, each at its first occurrence, and counts them. A title is missing from
the list only if it equals a listed one, and no listed title equals an earlier one. -/
theorem news_lists_first_titles (w : NewsWorld) (ok : (news w).status = 200) :
    ∃ newsData titles, w.newsApi (newsParams w) = .ok newsData ∧
      titles = (upstreamTitles newsData).eraseDupsBy (equals w.numEq) ∧
      (titles.Pairwise fun earlier later => equals w.numEq later earlier = false) ∧
      (∀ title ∈ upstreamTitles newsData,
        title ∈ titles ∨ ∃ kept ∈ titles, equals w.numEq title kept = true) ∧
      (news w).body =
        encoded (.obj [(str "count", .num (.ofNat titles.length)), (str "titles", .arr titles)]) := by
  obtain ⟨newsData, upstream, answer⟩ := news_upstream ok
  refine ⟨newsData, _, upstream, rfl, Lists.pairwise_eraseDupsBy _ _,
    fun _ inside => Lists.mem_or_equal_eraseDupsBy _ inside, ?_⟩
  rw [answer, collectTitles_eq]
  rfl

/-- A service whose lists overlap, with elements that are no articles in between. -/
def overlappingLists : NewsWorld where
  args := []
  newsApi _ := .ok (.obj [
    (str "Latest", .arr [.obj [(str "title", .str (str "Rain"))], .null, .obj [(str "link", .bool true)],
      .obj [(str "title", .str (str "Snow"))]]),
    (str "status", .num (.ofNat 200)),
    (str "World", .arr [.obj [(str "title", .str (str "Rain"))], .obj [(str "title", .str [])],
      .obj [(str "title", .str (str "Wind"))]])])
  numEq m n := m.text == n.text

theorem news_lists_first_titles_overlapping :
    ∃ newsData titles, overlappingLists.newsApi (newsParams overlappingLists) = .ok newsData ∧
      titles = (upstreamTitles newsData).eraseDupsBy (equals overlappingLists.numEq) ∧
      (titles.Pairwise fun earlier later => equals overlappingLists.numEq later earlier = false) ∧
      (∀ title ∈ upstreamTitles newsData,
        title ∈ titles ∨ ∃ kept ∈ titles, equals overlappingLists.numEq title kept = true) ∧
      (news overlappingLists).body =
        encoded (.obj [(str "count", .num (.ofNat titles.length)), (str "titles", .arr titles)]) :=
  news_lists_first_titles overlappingLists rfl

end SmartClock.Proxy
