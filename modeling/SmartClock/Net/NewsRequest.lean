import SmartClock.Net.Transfer
import SmartClock.Net.ParseNews
import SmartClock.Http.Header

/-!
# The `/news` thread

`http_request` and the request loop of `networking_config_news.c`. The loop sleeps forever
when a request returned 0 and `g_news.ready` is set. The flag may be left from an earlier
attempt, the return value is also 0 when no length was learnt, and the length learnt is the number
behind the first text `Content-Length: `, wherever that stands. `Sound` tells the attempts in
which nothing of this goes wrong, and `asleep_only_when_complete_iff` is about every run.
-/

namespace SmartClock.Net

open Text

/-- `http_request` of `networking_config_news.c`, behind the loop: the parse and the return
value. -/
def newsReturn (raw : CStr) (total : Nat) (contentLength : Int) (g : NewsData) : Except Fault (Int × NewsData) :=
  let g := match find blankLine raw.1 with
    | some body => parseNewsTitles (dropStr raw (body + 4)) g
    | none => g
  if contentLength > 0 then do
    let hdrSize := match find blankLine raw.1 with
      | some hdrEnd => hdrEnd + 4
      | none => 0
    let complete ← allReceived hdrSize total contentLength
    return (if complete then 0 else -1, g)
  else
    return (if total > 0 then 0 else -1, g)

/-- `http_request` of `networking_config_news.c`, behind `send`. -/
def newsResponse (rounds : List Round) (g : NewsData) : Except Fault (Int × NewsData) := do
  let s ← receive (start Client.news.bufSize) rounds
  let raw ← rawText s.buf
  newsReturn raw s.total s.contentLength g

/-- `http_request` of `networking_config_news.c` -/
def httpRequestNews : Attempt → NewsData → Except Fault (Int × NewsData)
  | .failed errno _, g => .ok (-errno, g)
  | .sent rounds, g => newsResponse rounds g

/-- The thread in its request loop, or in `k_sleep(K_FOREVER)`. -/
inductive NewsThread where
  | fetching (g : NewsData)
  | asleep (g : NewsData)

/-- One pass of the request loop. -/
def newsAttempt (g : NewsData) (a : Attempt) : Except Fault NewsThread := do
  let (ret, g) ← httpRequestNews a g
  return if ret = 0 ∧ g.ready = true then .asleep g else .fetching g

/-- `network_config_news`, behind `k_sem_take`, over the attempts it makes. -/
def networkConfigNews : NewsThread → List Attempt → Except Fault NewsThread
  | .asleep g, _ => .ok (.asleep g)
  | .fetching g, [] => .ok (.fetching g)
  | .fetching g, a :: attempts =>
    match newsAttempt g a with
    | .error fault => .error fault
    | .ok thread => networkConfigNews thread attempts

/-- The attempts that a run makes, each with `g_news` before it. -/
def visits : NewsThread → List Attempt → List (NewsData × Attempt)
  | .asleep _, _ => []
  | .fetching _, [] => []
  | .fetching g, a :: attempts =>
    (g, a) :: match newsAttempt g a with
      | .error _ => []
      | .ok thread => visits thread attempts

/-- The length that the header in front of a blank line announces. -/
def announced (data : List UInt8) (hdrEnd : Nat) : Option Int := Http.contentLength (data.take hdrEnd)

/-- The bytes are a complete answer, and `g_news` holds the titles of the body announced. -/
def CompleteNews (data : List UInt8) (g : NewsData) : Prop :=
  ∃ hdrEnd n, find blankLine (raw data) = some hdrEnd ∧ announced data hdrEnd = some n ∧
    ((hdrEnd + 4 : Nat) : Int) + n ≤ data.length ∧
      g.shown = titlesIn (raw ((data.drop (hdrEnd + 4)).take n.toNat)) ∧
      g.count = g.shown.length ∧ g.shown ≠ []

/-- More of the body is awaited than came. -/
def Awaits (part : List Chunk) (came : Nat) : Prop := ∃ length ∈ firstLength part, (came : Int) < length

/-- What keeps an attempt from putting the thread to sleep wrongly. Without a header, nothing came or nothing
was ready. With one, no title came, or more is awaited; or the header announces a length which is
the one read, or came as well, and bytes behind the announced body change no title. -/
def Accounted (g : NewsData) (part : List Chunk) : Prop :=
  match find blankLine (raw (bytes part)) with
  | none => part = [] ∨ g.ready = false
  | some hdrEnd =>
    let body := (bytes part).drop (hdrEnd + 4)
    let titles := titlesIn ((raw (bytes part)).drop (hdrEnd + 4))
    titles = [] ∨ Awaits part body.length ∨
      ∃ n ∈ announced (bytes part) hdrEnd, (firstLength part = some (saturate n) ∨ n ≤ body.length) ∧
        (n ≤ body.length → titles = titlesIn (raw (body.take n.toNat)))

/-- An attempt that is defined, and does not put the thread to sleep wrongly. -/
def Sound (g : NewsData) : Attempt → Prop
  | .failed _ _ => True
  | .sent rounds =>
    let part := taken Client.news.bufSize [] (chunks rounds)
    Defined Client.news.bufSize part ∧ Accounted g part

/-! ## One attempt -/

section Attempt

variable {rounds : List Round} {s : RecvState Client.news.bufSize} {part : List Chunk}

theorem newsResponse_eq (run : receive (start Client.news.bufSize) rounds = .ok s) (h : Tracks s part)
    (g : NewsData) :
    newsResponse rounds g =
      newsReturn (upToZero (bytes part)) (bytes part).length ((firstLength part).getD (-1)) g := by
  rw [newsResponse, run]
  show (rawText s.buf >>= _) = _
  rw [rawText_eq h.received h.defined.terminated, h.received.total, ← h.length]
  rfl

/-- An answer without a complete header leaves `g_news` alone. -/
theorem newsResponse_headless (run : receive (start Client.news.bufSize) rounds = .ok s)
    (h : Tracks s part) (headless : find blankLine (raw (bytes part)) = none) (g : NewsData) :
    newsResponse rounds g = .ok (if part = [] then -1 else 0, g) := by
  have headless' : find blankLine (upToZero (bytes part)).1 = none := headless
  have unread : firstLength part = none := by
    cases first : firstLength part with
    | none => rfl
    | some n =>
      obtain ⟨-, hdrEnd, found⟩ := firstLength_eq_some first
      rw [headless] at found
      cases found
  rw [newsResponse_eq run h, newsReturn, headless', unread]
  cases part with
  | nil => rfl
  | cons chunk part =>
    have pos : (bytes (chunk :: part)).length > 0 := by
      apply List.length_pos_iff.2
      exact fun none => List.cons_ne_nil _ _ (bytes_eq_nil none)
    rw [if_neg (List.cons_ne_nil _ _)]
    show Except.ok (if (bytes (chunk :: part)).length > 0 then (0 : Int) else -1, g) = _
    rw [if_pos pos]

/-- An answer with a header: its titles are parsed, and 0 is returned unless more is awaited. -/
theorem newsResponse_found (run : receive (start Client.news.bufSize) rounds = .ok s)
    (h : Tracks s part) {hdrEnd : Nat} (header : find blankLine (raw (bytes part)) = some hdrEnd) (g : NewsData) :
    ∃ ret, newsResponse rounds g =
        .ok (ret, parseNewsTitles (dropStr (upToZero (bytes part)) (hdrEnd + 4)) g) ∧
      (ret = 0 ↔ ¬ Awaits part ((bytes part).drop (hdrEnd + 4)).length) := by
  have header' : find blankLine (upToZero (bytes part)).1 = some hdrEnd := header
  have inside := find_blank_le header
  rw [newsResponse_eq run h, newsReturn, header', List.length_drop]
  dsimp only
  cases first : firstLength part with
  | none =>
    rw [Option.getD_none, if_neg (by decide), if_pos (by omega)]
    refine ⟨_, rfl, fun _ => ?_, fun _ => rfl⟩
    rintro ⟨length, known, -⟩
    rw [first] at known
    cases known
  | some length =>
    have awaited : Awaits part ((bytes part).length - (hdrEnd + 4)) ↔
        (((bytes part).length - (hdrEnd + 4) : Nat) : Int) < length := by
      simp [Awaits, first]
    have high : length ≤ intMax - ((hdrEnd + 4 : Nat) : Int) := h.defined.bounded length first hdrEnd header
    have range : ((hdrEnd + 4 : Nat) : Int) + length ≤ intMax := by omega
    rw [Option.getD_some, awaited]
    by_cases pos : length > 0
    · rw [if_pos pos, allReceived_eq (firstLength_eq_some first).1, if_pos range]
      refine ⟨_, rfl, ?_⟩
      by_cases all : ((hdrEnd + 4 : Nat) : Int) + length ≤ (bytes part).length
      · rw [decide_eq_true all]
        exact ⟨fun _ => by omega, fun _ => rfl⟩
      · rw [decide_eq_false all]
        exact ⟨fun zero => absurd zero (by decide), fun none => by omega⟩
    · rw [if_neg pos, if_pos (by omega)]
      exact ⟨_, rfl, fun _ => by omega, fun _ => rfl⟩

/-- With the announced length read, and no more awaited, as much came. -/
theorem covered_of_read {part : List Chunk} {hdrEnd : Nat} (defined : Defined Client.news.bufSize part)
    (header : find blankLine (raw (bytes part)) = some hdrEnd) {n : Int}
    (read : firstLength part = some (saturate n)) {came : Nat} (enough : ¬ Awaits part came) : n ≤ came := by
  have high : saturate n ≤ intMax - ((hdrEnd + 4 : Nat) : Int) := defined.bounded _ read hdrEnd header
  have all : saturate n ≤ came := by
    by_contra more
    exact enough ⟨_, read, by omega⟩
  -- so `atoi` has not cut the number down to an `int`
  have range : intMin = -2147483648 ∧ intMax = 2147483647 := ⟨rfl, rfl⟩
  unfold saturate at high all
  omega

/-- What the parse leaves of the text behind a blank line. -/
theorem parsed_titles (part : List Chunk) (hdrEnd : Nat) (g : NewsData) :
    let titles := titlesIn ((raw (bytes part)).drop (hdrEnd + 4))
    let g' := parseNewsTitles (dropStr (upToZero (bytes part)) (hdrEnd + 4)) g
    g'.shown = titles ∧ g'.count = titles.length ∧ g'.ready = decide (titles ≠ []) :=
  parseNewsTitles_shown (dropStr (upToZero (bytes part)) (hdrEnd + 4)) g

/-- Where the titles that an answer leaves are those of a complete answer. -/
theorem completeNews_iff {part : List Chunk} {hdrEnd : Nat}
    (header : find blankLine (raw (bytes part)) = some hdrEnd) (g : NewsData)
    (found : titlesIn ((raw (bytes part)).drop (hdrEnd + 4)) ≠ []) :
    let body := (bytes part).drop (hdrEnd + 4)
    CompleteNews (bytes part) (parseNewsTitles (dropStr (upToZero (bytes part)) (hdrEnd + 4)) g) ↔
      ∃ n ∈ announced (bytes part) hdrEnd, n ≤ body.length ∧
        titlesIn ((raw (bytes part)).drop (hdrEnd + 4)) = titlesIn (raw (body.take n.toNat)) := by
  intro body
  obtain ⟨shown, count, -⟩ := parsed_titles part hdrEnd g
  have inside := find_blank_le header
  have size : body.length = (bytes part).length - (hdrEnd + 4) := List.length_drop
  rw [CompleteNews, shown, count]
  constructor
  · rintro ⟨hdrEnd', n, header', announces, all, same, -, -⟩
    obtain rfl := Option.some.inj (header.symm.trans header')
    exact ⟨n, announces, by omega, same⟩
  · rintro ⟨n, announces, all, same⟩
    exact ⟨hdrEnd, n, header, announces, by omega, same, rfl, found⟩

/-- What an answer does to a thread whose last attempt it is. -/
theorem newsResponse_complete_iff (run : receive (start Client.news.bufSize) rounds = .ok s)
    (h : Tracks s part) (g : NewsData) :
    ∃ ret g', newsResponse rounds g = .ok (ret, g') ∧
      ((ret = 0 → g'.ready = true → CompleteNews (bytes part) g') ↔ Accounted g part) := by
  unfold Accounted
  cases header : find blankLine (raw (bytes part)) with
  | none =>
    refine ⟨_, _, newsResponse_headless run h header g, ?_⟩
    dsimp only
    by_cases nothing : part = []
    · rw [if_pos nothing]
      exact ⟨fun _ => .inl nothing, fun _ zero => absurd zero (by decide)⟩
    · rw [if_neg nothing]
      constructor
      · intro claimed
        right
        by_contra ready
        obtain ⟨hdrEnd, n, header', -⟩ := claimed rfl (by simpa using ready)
        rw [header] at header'
        cases header'
      · rintro (nothing' | stale) _ ready
        · exact absurd nothing' nothing
        · rw [stale] at ready
          cases ready
  | some hdrEnd =>
    obtain ⟨ret, response, zero⟩ := newsResponse_found run h header g
    obtain ⟨-, -, ready⟩ := parsed_titles part hdrEnd g
    refine ⟨ret, _, response, ?_⟩
    rw [zero, ready, decide_eq_true_eq]
    dsimp only
    constructor
    · intro claimed
      by_cases found : titlesIn ((raw (bytes part)).drop (hdrEnd + 4)) = []
      · exact .inl found
      · by_cases more : Awaits part ((bytes part).drop (hdrEnd + 4)).length
        · exact .inr (.inl more)
        · obtain ⟨n, announces, all, same⟩ := (completeNews_iff header g found).1 (claimed more found)
          exact .inr (.inr ⟨n, announces, .inr all, fun _ => same⟩)
    · rintro (none | more | ⟨n, announces, covers, same⟩) enough found
      · exact absurd none found
      · exact absurd more enough
      · have all : n ≤ ((bytes part).drop (hdrEnd + 4)).length := by
          rcases covers with read | all
          · exact covered_of_read h.defined header read enough
          · exact all
        exact (completeNews_iff header g found).2 ⟨n, announces, all, same all⟩

end Attempt

/-- A thread that sleeps has the titles of the complete answer which this attempt brought. -/
def Rightly (thread : NewsThread) (a : Attempt) : Prop :=
  ∀ g, thread = .asleep g →
    ∃ rounds, a = .sent rounds ∧ CompleteNews (receivedBytes (start Client.news.bufSize) rounds) g

theorem newsAttempt_of_request {g g' : NewsData} {a : Attempt} {ret : Int}
    (run : httpRequestNews a g = .ok (ret, g')) :
    newsAttempt g a = .ok (if ret = 0 ∧ g'.ready = true then .asleep g' else .fetching g') := by
  rw [newsAttempt, run]
  rfl

theorem ok_rightly_iff {thread : NewsThread} {a : Attempt} :
    (∃ thread', (.ok thread : Except Fault NewsThread) = .ok thread' ∧ Rightly thread' a) ↔ Rightly thread a := by
  constructor
  · rintro ⟨thread', ⟨⟩, rightly⟩
    exact rightly
  · exact fun rightly => ⟨thread, rfl, rightly⟩

/-- **One attempt** is sound iff it is defined and puts the thread to sleep only rightly. -/
theorem newsAttempt_iff (g : NewsData) (a : Attempt) :
    (∃ thread, newsAttempt g a = .ok thread ∧ Rightly thread a) ↔ Sound g a := by
  cases a with
  | failed errno nonzero =>
    refine ⟨fun _ => trivial, fun _ => ⟨_, newsAttempt_of_request rfl, fun g' asleep => ?_⟩⟩
    rw [if_neg (by omega)] at asleep
    cases asleep
  | sent rounds =>
    have pos : 0 < Client.news.bufSize := by decide
    rcases receive_start pos rounds with ⟨s, run, tracks⟩ | ⟨⟨fault, run⟩, undefined⟩
    · obtain ⟨ret, g', response, complete⟩ := newsResponse_complete_iff run tracks g
      rw [← receivedBytes_start pos] at complete
      have requested : httpRequestNews (.sent rounds) g = .ok (ret, g') := response
      rw [newsAttempt_of_request requested, ok_rightly_iff, Sound, ← complete]
      constructor
      · intro rightly
        refine ⟨tracks.defined, fun zero ready => ?_⟩
        obtain ⟨rounds', same, whole⟩ := rightly g' (if_pos ⟨zero, ready⟩)
        cases same
        exact whole
      · rintro ⟨-, whole⟩ g₁ asleep
        split at asleep
        · rename_i both
          cases asleep
          exact ⟨rounds, rfl, whole both.1 both.2⟩
        · cases asleep
    · constructor
      · rintro ⟨thread, attempted, -⟩
        rw [newsAttempt, httpRequestNews, newsResponse, run] at attempted
        cases attempted
      · rintro ⟨defined, -⟩
        exact absurd defined undefined

/-! ## Runs -/

section Runs

variable {g : NewsData} {a : Attempt} {attempts : List Attempt}

theorem networkConfigNews_ok {thread : NewsThread} (attempted : newsAttempt g a = .ok thread) :
    networkConfigNews (.fetching g) (a :: attempts) = networkConfigNews thread attempts := by
  simp only [networkConfigNews, attempted]

theorem networkConfigNews_error {fault : Fault} (attempted : newsAttempt g a = .error fault) :
    networkConfigNews (.fetching g) (a :: attempts) = .error fault := by
  simp only [networkConfigNews, attempted]

theorem visits_ok {thread : NewsThread} (attempted : newsAttempt g a = .ok thread) :
    visits (.fetching g) (a :: attempts) = (g, a) :: visits thread attempts := by
  simp only [visits, attempted]

theorem visits_error {fault : Fault} (attempted : newsAttempt g a = .error fault) :
    visits (.fetching g) (a :: attempts) = [(g, a)] := by
  simp only [visits, attempted]

/-- A thread that sleeps has made an attempt. -/
theorem visits_ne_nil {g' : NewsData} (run : networkConfigNews (.fetching g) attempts = .ok (.asleep g')) :
    visits (.fetching g) attempts ≠ [] := by
  cases attempts with
  | nil => cases run
  | cons a attempts => exact List.cons_ne_nil _ _

end Runs

/-- **The thread stops fetching only with complete news** iff each attempt it makes is sound: the
run is then defined, and where it ends asleep, `g_news` has the titles of the complete answer of
the last attempt. -/
theorem asleep_only_when_complete_iff (attempts : List Attempt) (g : NewsData) :
    (∃ thread, networkConfigNews (.fetching g) attempts = .ok thread ∧ ∀ g', thread = .asleep g' →
      ∃ before rounds, (visits (.fetching g) attempts).getLast? = some (before, .sent rounds) ∧
        CompleteNews (receivedBytes (start Client.news.bufSize) rounds) g') ↔
      ∀ v ∈ visits (.fetching g) attempts, Sound v.1 v.2 := by
  induction attempts generalizing g with
  | nil => exact ⟨fun _ => nofun, fun _ => ⟨_, rfl, nofun⟩⟩
  | cons a attempts ih =>
    have one := newsAttempt_iff g a
    cases attempted : newsAttempt g a with
    | error fault =>
      rw [networkConfigNews_error attempted, visits_error attempted, List.forall_mem_singleton, ← one, attempted]
      constructor
      · rintro ⟨thread, ⟨⟩, -⟩
      · rintro ⟨thread, ⟨⟩, -⟩
    | ok thread =>
      rw [attempted, ok_rightly_iff] at one
      rw [networkConfigNews_ok attempted, visits_ok attempted, List.forall_mem_cons, ← one]
      cases thread with
      | asleep g₁ =>
        rw [networkConfigNews, visits]
        constructor
        · rintro ⟨thread, ⟨⟩, sleeps⟩
          refine ⟨fun g' asleep => ?_, nofun⟩
          obtain ⟨before, rounds, last, complete⟩ := sleeps g' asleep
          cases last
          exact ⟨rounds, rfl, complete⟩
        · rintro ⟨rightly, -⟩
          refine ⟨_, rfl, fun g' asleep => ?_⟩
          obtain ⟨rounds, rfl, complete⟩ := rightly g' asleep
          exact ⟨g, rounds, rfl, complete⟩
      | fetching g₁ =>
        have awake : Rightly (.fetching g₁) a := nofun
        rw [← ih g₁]
        constructor
        · rintro ⟨thread, later, sleeps⟩
          refine ⟨awake, thread, later, fun g' asleep => ?_⟩
          obtain ⟨before, rounds, last, complete⟩ := sleeps g' asleep
          rw [asleep] at later
          rw [List.getLast?_cons_of_ne_nil (visits_ne_nil later)] at last
          exact ⟨before, rounds, last, complete⟩
        · rintro ⟨-, thread, later, sleeps⟩
          refine ⟨thread, later, fun g' asleep => ?_⟩
          obtain ⟨before, rounds, last, complete⟩ := sleeps g' asleep
          refine ⟨before, rounds, ?_, complete⟩
          rw [List.getLast?_cons, last]
          rfl

/-! ## A cut body, then a cut header -/

def oneChunk (bytes : List UInt8) (h : bytes ≠ [] ∧ bytes.length ≤ 255) : List Round :=
  [⟨1, true, some ⟨bytes, h.1, h.2⟩⟩]

theorem delivered_oneChunk {bytes : List UInt8} (h : bytes ≠ [] ∧ bytes.length ≤ 255) :
    delivered (oneChunk bytes h) = bytes := List.append_nil bytes

theorem delivered_oneChunk_append {bytes : List UInt8} (h : bytes ≠ [] ∧ bytes.length ≤ 255)
    (rounds : List Round) : delivered (oneChunk bytes h ++ rounds) = bytes ++ delivered rounds := rfl

def cutBody : List Round :=
  oneChunk (ascii "HTTP/1.1 200 OK\r\nContent-Length: 99\r\n\r\n\x7b\"title\": \"Rain\"") (by decide)

def cutHeader : List Round := oneChunk (ascii "HTTP/1.1 200 OK\r\nCont") (by decide)

/-- A whole answer. -/
def wholeNews : List Round :=
  oneChunk (ascii "HTTP/1.1 200 OK\r\nContent-Length: 17\r\n\r\n\x7b\"title\": \"Rain\"\x7d") (by decide)

theorem sound_wholeNews : Sound gNews (.sent wholeNews) := by
  have part : find blankLine (raw (bytes (taken Client.news.bufSize [] (chunks wholeNews)))) = some 35 := by
    decide +kernel
  refine ⟨⟨.inl (by decide +kernel), by decide +kernel⟩, ?_⟩
  unfold Accounted
  rw [part]
  refine .inr (.inr ⟨17, by decide +kernel, .inl (by decide +kernel), fun _ => ?_⟩)
  decide +kernel

theorem asleep_only_when_complete_rain :
    ∃ thread, networkConfigNews (.fetching gNews) [.sent wholeNews] = .ok thread ∧
      ∀ g', thread = .asleep g' →
        ∃ before rounds, (visits (.fetching gNews) [.sent wholeNews]).getLast? = some (before, .sent rounds) ∧
          CompleteNews (receivedBytes (start Client.news.bufSize) rounds) g' := by
  apply (asleep_only_when_complete_iff [.sent wholeNews] gNews).2
  have visited : visits (.fetching gNews) [.sent wholeNews] = [(gNews, .sent wholeNews)] := by
    simp only [visits]
    split
    · rfl
    · rename_i thread _
      cases thread <;> rfl
  rw [visited, List.forall_mem_singleton]
  exact sound_wholeNews

/-- The titles a thread sleeps with. -/
def sleepingTitles : Except Fault NewsThread → Option (List (List UInt8))
  | .ok (.asleep g) => some g.shown
  | _ => none

theorem sleepingTitles_eq_some {run : Except Fault NewsThread} {titles : List (List UInt8)}
    (sleeps : sleepingTitles run = some titles) : ∃ g, run = .ok (.asleep g) ∧ g.shown = titles := by
  unfold sleepingTitles at sleeps
  split at sleeps
  · exact ⟨_, rfl, Option.some.inj sleeps⟩
  · cases sleeps

/-- The thread sleeps with the title of the first attempt, though the second has not even a
header. -/
theorem stale_news_kept :
    ∃ g, networkConfigNews (.fetching gNews) [.sent cutBody, .sent cutHeader] = .ok (.asleep g) ∧
      g.shown = [ascii "Rain"] ∧ ¬ CompleteNews (receivedBytes (start Client.news.bufSize) cutHeader) g := by
  have sleeps : sleepingTitles (networkConfigNews (.fetching gNews) [.sent cutBody, .sent cutHeader]) =
      some [ascii "Rain"] := by decide +kernel
  have headless : find blankLine (raw (receivedBytes (start Client.news.bufSize) cutHeader)) = none := by decide +kernel
  obtain ⟨g, run, shown⟩ := sleepingTitles_eq_some sleeps
  refine ⟨g, run, shown, ?_⟩
  rintro ⟨hdrEnd, n, header, -⟩
  rw [headless] at header
  cases header

end SmartClock.Net
