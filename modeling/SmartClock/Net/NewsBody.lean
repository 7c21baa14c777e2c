import SmartClock.Net.ParseNews
import SmartClock.Proxy.News

/-!
# Decoding an encoded `/news` answer

The proxy lists the titles as strings under the key `"titles"`; the scanner looks for members
with the key `"title"`, as the news service itself has them. No answer of the proxy contains
that key, so no title is ever found.
-/

namespace SmartClock.Net

open Text Json Proxy

theorem isName_title : IsName (ascii "title") := ⟨by decide, by decide +kernel⟩

/-- The proxy's object holds no hit of the scanner's key. -/
theorem find_newsObject {titles : List Value} (scalars : ∀ v ∈ titles, v.isScalar = true) :
    find titleKey (dumps (newsObject titles)) = none := by
  have keys : ∀ key ∈ [str "count", str "titles"], escape key ≠ ascii "title" ∧ 34 ∉ escape key := by
    decide
  apply find_no_member isName_title
  · intro m inside
    rcases List.mem_cons.1 inside with rfl | inside
    · exact find_scalar isName_title rfl
    · obtain rfl := List.mem_singleton.1 inside
      exact find_arr isName_title scalars
  · intro m inside
    rcases List.mem_cons.1 inside with rfl | inside
    · exact keys _ List.mem_cons_self
    · obtain rfl := List.mem_singleton.1 inside
      exact keys _ (by simp)

theorem titlesIn_newsObject {titles : List Value} (scalars : ∀ v ∈ titles, v.isScalar = true) :
    titlesIn (dumps (newsObject titles)) = [] := by
  rw [titlesIn, newsMax, titlesFrom, find_newsObject scalars]

/-- `g_news` as decoding `titles` should leave it. -/
structure NewsDecoded (titles : List Str) (g : NewsData) : Prop where
  ready : g.ready = true
  count : g.count = min newsMax titles.length
  /-- A title that needs no escape is the title cut to 79 bytes. -/
  text : ∀ i (row : i < newsMax) (here : i < titles.length), (∀ c ∈ titles[i], plain c = true) →
    g.titles[i].text = (titles[i].map fun c => c.val.toUInt8).take (newsTitleLen - 1)

theorem news_ok {w : NewsWorld} {newsData : Value} (upstream : w.newsApi (newsParams w) = .ok newsData) :
    news w = respond (newsObject (collectTitles w.numEq newsData)) 200 := by
  rw [news, tryNews, upstream]
  rfl

theorem isScalar_strings (titles : List Str) : ∀ v ∈ titles.map Value.str, v.isScalar = true := by
  intro v inside
  obtain ⟨t, -, rfl⟩ := List.mem_map.1 inside
  rfl

/-- **The encoder and the decoder never agree**: whatever titles the proxy collects and
answers with, the decoder finds none. -/
theorem news_never_decoded {w : NewsWorld} {newsData : Value}
    (upstream : w.newsApi (newsParams w) = .ok newsData) {titles : List Str}
    (texts : collectTitles w.numEq newsData = titles.map .str) (g : NewsData) :
    (news w).status = 200 ∧ ¬ NewsDecoded titles (parseNewsTitles (news w).body g) := by
  rw [news_ok upstream, texts]
  refine ⟨rfl, fun decoded => ?_⟩
  obtain ⟨-, -, ready⟩ := parseNewsTitles_shown (encoded (newsObject (titles.map .str))) g
  rw [show (encoded _).1 = dumps _ from rfl, titlesIn_newsObject (isScalar_strings titles)] at ready
  have claimed : (parseNewsTitles (encoded (newsObject (titles.map .str))) g).ready = true := decoded.ready
  rw [ready] at claimed
  exact absurd claimed (by decide)

/-- A news service with one article. -/
def oneArticle : NewsWorld where
  args := []
  newsApi _ := .ok (.obj [(str "Latest", .arr [.obj [(str "title", .str (str "Clocks go forward"))]])])
  numEq m n := m.text == n.text

theorem news_never_decoded_one :
    (news oneArticle).status = 200 ∧
      ¬ NewsDecoded [str "Clocks go forward"] (parseNewsTitles (news oneArticle).body gNews) :=
  news_never_decoded rfl rfl gNews

theorem one_article_lost :
    (news oneArticle).body = encoded (newsObject [.str (str "Clocks go forward")]) ∧
      (news oneArticle).status = 200 ∧
      (parseNewsTitles (news oneArticle).body gNews).ready = false ∧
      (parseNewsTitles (news oneArticle).body gNews).count = 0 := by
  refine ⟨rfl, rfl, ?_⟩
  obtain ⟨-, count, ready⟩ := parseNewsTitles_shown (news oneArticle).body gNews
  have untitled : titlesIn (news oneArticle).body.1 = [] :=
    titlesIn_newsObject (isScalar_strings [str "Clocks go forward"])
  rw [ready, count, untitled]
  exact ⟨by decide, rfl⟩

end SmartClock.Net
