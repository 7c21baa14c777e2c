import SmartClock.Net.Chunking
import SmartClock.Net.NewsBody

/-!
# The `/news` thread against the proxy

What `http_request` hands to its parser when a part of a response arrives (`fetch_part`), for
both clients. The proxy's answers never hold the key that `parse_news_titles` looks for, nor
does any part of them. So the thread goes on fetching: `news_thread_starves` is about every run
of its loop, with failed, cut and whole transfers in any order.
-/

namespace SmartClock.Net

open Text Json Proxy

namespace HttpResponse

variable {r : HttpResponse} {rounds : List Round}

/-- The result of a client when a part of a response has arrived. -/
theorem result_part {client : Client} (fits : r.text.length < client.bufSize) {data : List UInt8}
    (part : data <+: r.text) :
    ∃ ret, client.result (upToZero data) data.length (r.lengthKnown data.length) = .ok ret := by
  cases client with
  | info => exact ⟨_, rfl⟩
  | news =>
    have bound : (Client.news.bufSize : Int) ≤ intMax := by decide
    rw [Client.result, newsResult, upToZero_part part]
    by_cases announced : r.lengthKnown data.length > 0
    · rw [if_pos announced]
      have long : r.headerSize ≤ data.length := by
        by_contra short
        rw [lengthKnown, if_neg short] at announced
        omega
      rw [find_blank_long part long, lengthKnown, if_pos long]
      dsimp only
      rw [allReceived_text (by omega)]
      exact ⟨_, rfl⟩
    · rw [if_neg announced]
      exact ⟨_, rfl⟩

/-- **A part of a response** in any chunks: behind the header, the client hands what has arrived
of the body to its parser once. -/
theorem fetch_part {client : Client} (fits : r.text.length < client.bufSize)
    (part : delivered rounds <+: r.text) {σ : Type} (parse : CStr → σ → σ) (g : σ) :
    ∃ ret, fetch parse client rounds g = .ok (ret,
      if r.headerSize ≤ (delivered rounds).length then
        parse (takeStr r.body ((delivered rounds).length - r.headerSize)) g
      else g) := by
  have bound : (client.bufSize : Int) ≤ intMax := by cases client <;> decide
  have known : (start client.bufSize).contentLength = r.lengthKnown ([] : List UInt8).length := by
    rw [lengthKnown, if_neg (by simp [headerSize])]
    rfl
  obtain ⟨s, run, received, length⟩ := receive_part fits bound rounds (received_start _) known part
  rw [List.nil_append] at received length
  have ends : Terminated client.bufSize (delivered rounds) :=
    .inl (Nat.lt_of_le_of_lt part.length_le fits)
  obtain ⟨ret, result⟩ := @result_part r client fits _ part
  rw [← length, ← received.total] at result
  refine ⟨ret, ?_⟩
  rw [fetch, run]
  show (rawText s.buf >>= _) = _
  rw [rawText_eq received ends]
  show (client.result _ _ _ >>= _) = _
  rw [result]
  show Except.ok (ret, parseBody parse (upToZero (delivered rounds)) g) = _
  rw [parseBody, upToZero_part part]
  by_cases long : r.headerSize ≤ (delivered rounds).length
  · have body : dropStr (upToZero (delivered rounds)) (r.header.length + 4) =
        takeStr r.body ((delivered rounds).length - r.headerSize) := by
      apply Subtype.ext
      show (upToZero (delivered rounds)).1.drop r.headerSize = r.body.1.take _
      rw [upToZero_part part, ← r.drop_headerSize, ← List.drop_take, ← List.prefix_iff_eq_take.1 part]
    rw [find_blank_long part long, if_pos long]
    simp only [body]
  · rw [find_blank_short part (by omega), if_neg long]

end HttpResponse

/-! ## No part of an answer has a title -/

/-- The news service lists its titles as strings or other plain values. -/
def PlainTitles (w : NewsWorld) : Prop :=
  ∀ newsData, w.newsApi (newsParams w) = .ok newsData →
    ∀ title ∈ collectTitles w.numEq newsData, title.isScalar = true

theorem find_news {w : NewsWorld} (plain : PlainTitles w) : find titleKey (news w).body.1 = none := by
  unfold news tryNews
  cases upstream : w.newsApi (newsParams w) with
  | ok newsData => exact find_newsObject (plain newsData upstream)
  | error text =>
    have clean : escape (str "error") ≠ ascii "title" ∧ 34 ∉ escape (str "error") := by decide
    apply find_no_member isName_title
    · intro m inside
      obtain rfl := List.mem_singleton.1 inside
      exact find_scalar isName_title rfl
    · intro m inside
      obtain rfl := List.mem_singleton.1 inside
      exact clean

theorem titlesIn_none {json : List UInt8} (missing : find titleKey json = none) : titlesIn json = [] := by
  rw [titlesIn, newsMax, titlesFrom, missing]

theorem titlesIn_news_part {w : NewsWorld} (plain : PlainTitles w) (q : Nat) :
    titlesIn ((news w).body.1.take q) = [] := by
  have ne : titleKey ≠ [] := keyPattern_ne_nil _
  apply titlesIn_none
  rw [find_take ne, find_news plain]
  rfl

/-! ## The loop -/

/-- What the thread gets from the proxy: nothing, or some part of an answer. -/
inductive FromProxy : Attempt → Prop where
  | failed (errno : Nat) (nonzero : errno ≠ 0) : FromProxy (.failed errno nonzero)
  | sent {w : NewsWorld} (plain : PlainTitles w) {r : HttpResponse} (body : r.body = (news w).body)
    (fits : r.text.length < Client.news.bufSize) {rounds : List Round}
    (part : delivered rounds <+: r.text) : FromProxy (.sent rounds)

/-- There is nothing to show. -/
def NoNews (g : NewsData) : Prop := g.ready = false ∧ g.count = 0

theorem noNews_parse {json : CStr} (untitled : titlesIn json.1 = []) (g : NewsData) :
    NoNews (parseNewsTitles json g) := by
  obtain ⟨-, count, ready⟩ := parseNewsTitles_shown json g
  rw [untitled] at count ready
  exact ⟨ready, count⟩

theorem FromProxy.noNews {a : Attempt} (h : FromProxy a) {g : NewsData} (nothing : NoNews g) :
    ∃ ret g', httpRequestNews a g = .ok (ret, g') ∧ NoNews g' := by
  cases h with
  | failed errno nonzero => exact ⟨_, g, rfl, nothing⟩
  | @sent w plain r body fits rounds part =>
    obtain ⟨ret, fetched⟩ := r.fetch_part fits part parseNewsTitles g
    rw [httpRequestNews, newsResponse_eq_fetch]
    refine ⟨ret, _, fetched, ?_⟩
    split
    · apply noNews_parse
      show titlesIn (r.body.1.take _) = []
      rw [body]
      exact titlesIn_news_part plain _
    · exact nothing

/-- The loop goes on without news. -/
theorem networkConfigNews_noNews {attempts : List Attempt} (answers : ∀ a ∈ attempts, FromProxy a)
    {g : NewsData} (nothing : NoNews g) :
    ∃ g', networkConfigNews (.fetching g) attempts = .ok (.fetching g') ∧ NoNews g' := by
  induction attempts generalizing g with
  | nil => exact ⟨g, rfl, nothing⟩
  | cons a attempts ih =>
    obtain ⟨ret, mid, requested, nothing'⟩ := (answers a List.mem_cons_self).noNews nothing
    have awake : ¬ (ret = 0 ∧ mid.ready = true) := by
      rw [nothing'.1]
      exact fun h => Bool.false_ne_true h.2
    have attempted : newsAttempt g a = .ok (.fetching mid) := by
      rw [newsAttempt_of_request requested, if_neg awake]
    obtain ⟨g', later, nothing''⟩ := ih (fun a inside => answers a (List.mem_cons_of_mem _ inside)) nothing'
    refine ⟨g', ?_, nothing''⟩
    rw [networkConfigNews_ok attempted, later]

/-- **The news thread starves.** Whatever plain titles the proxy's news service lists and however
the answers arrive, whole, in pieces, cut or not at all, in any order: the thread never enters
its final sleep, and `g_news` never has a title to show. -/
theorem news_thread_starves {attempts : List Attempt} (answers : ∀ a ∈ attempts, FromProxy a) :
    ∃ g, networkConfigNews (.fetching gNews) attempts = .ok (.fetching g) ∧ g.ready = false ∧
      g.shown = [] := by
  have booted : NoNews gNews := ⟨rfl, rfl⟩
  obtain ⟨g, ran, ready, count⟩ := networkConfigNews_noNews answers booted
  refine ⟨g, ran, ready, ?_⟩
  rw [NewsData.shown, count]
  rfl

/-- The proxy's answer with the title of `oneArticle`. -/
def oneTitleText : HttpText where
  before := ascii "HTTP/1.1 200 OK\r\nContent-Type: application/json\r\n"
  after := ascii "\r\nConnection: close"
  body := (news oneArticle).body

theorem oneTitleText_clean : 0 ∉ oneTitleText.header := by decide +kernel

theorem oneTitleText_blank : find blankLine oneTitleText.text = some oneTitleText.header.length := by
  decide +kernel

theorem oneTitleText_length : find contentLengthKey oneTitleText.text = some oneTitleText.before.length := by
  decide +kernel

theorem oneTitleText_ends : ∀ c ∈ oneTitleText.after.head?, isDigit c = false := by decide +kernel

def oneTitleResponse : HttpResponse where
  toHttpText := oneTitleText
  clean := oneTitleText_clean
  blank := oneTitleText_blank
  length := oneTitleText_length
  ends := oneTitleText_ends

theorem plainTitles_oneArticle : PlainTitles oneArticle := by
  rintro newsData ⟨⟩
  exact isScalar_strings [str "Clocks go forward"]

/-- It arrives as one chunk. -/
def oneTitleChunk : List Round := oneChunk oneTitleText.text (by decide +kernel)

theorem fromProxy_oneTitleChunk : FromProxy (.sent oneTitleChunk) := by
  apply FromProxy.sent plainTitles_oneArticle (rfl : oneTitleResponse.body = _)
  · decide +kernel
  · rw [oneTitleChunk, delivered_oneChunk]
    exact List.prefix_refl _

theorem news_thread_starves_one :
    ∃ g, networkConfigNews (.fetching gNews) [.failed 111 (by decide), .sent oneTitleChunk] = .ok (.fetching g) ∧
      g.ready = false ∧ g.shown = [] := by
  apply news_thread_starves
  intro a inside
  rcases List.mem_cons.1 inside with rfl | inside
  · exact .failed 111 (by decide)
  · obtain rfl := List.mem_singleton.1 inside
    exact fromProxy_oneTitleChunk

end SmartClock.Net
