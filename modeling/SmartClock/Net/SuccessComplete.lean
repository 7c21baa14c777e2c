import SmartClock.Net.NewsRequest

/-!
# What a return value of 0 says

`http_request` of `networking_config_news.c` returns 0 unless more of the body is awaited than
came. So a 0 says nothing where no length was read (a header that is cut, that has no length, or
one without a number), and little where the length read is not the one announced (the first text
`Content-Length: ` ends the name of another field, or stands in the body). `success_complete_iff`
tells the transfers whose 0 means a complete answer.
-/

namespace SmartClock.Net

open Text

/-- The bytes hold a complete header that announces a length, and as many body bytes. -/
def Complete (data : List UInt8) : Prop :=
  ∃ hdrEnd n, find blankLine (raw data) = some hdrEnd ∧ announced data hdrEnd = some n ∧
    ((hdrEnd + 4 : Nat) : Int) + n ≤ data.length

/-- What has to hold of the chunks taken for a 0 to say that the answer is complete. Nothing came; or a
complete header, and the length read exceeds what came behind it, or the header announces one
that is the one read, or came as well. -/
structure Honest (part : List Chunk) : Prop where
  defined : Defined Client.news.bufSize part
  told : part = [] ∨ ∃ hdrEnd, find blankLine (raw (bytes part)) = some hdrEnd ∧
    let came := ((bytes part).drop (hdrEnd + 4)).length
    Awaits part came ∨
      ∃ n ∈ announced (bytes part) hdrEnd, firstLength part = some (saturate n) ∨ n ≤ came

section Transfer

variable {rounds : List Round} {s : RecvState Client.news.bufSize} {part : List Chunk}

theorem incomplete_of_headless {data : List UInt8} (headless : find blankLine (raw data) = none) :
    ¬ Complete data := by
  rintro ⟨hdrEnd, n, found, -⟩
  rw [headless] at found
  cases found

theorem complete_iff {data : List UInt8} {hdrEnd : Nat} (header : find blankLine (raw data) = some hdrEnd) :
    Complete data ↔ ∃ n ∈ announced data hdrEnd, n ≤ (data.drop (hdrEnd + 4)).length := by
  have inside := find_blank_le header
  rw [List.length_drop]
  constructor
  · rintro ⟨hdrEnd', n, header', announces, all⟩
    obtain rfl := Option.some.inj (header.symm.trans header')
    exact ⟨n, announces, by omega⟩
  · rintro ⟨n, announces, all⟩
    exact ⟨hdrEnd, n, header, announces, by omega⟩

/-- When a 0 of a defined transfer says that the answer is complete. -/
theorem zero_complete_iff (run : receive (start Client.news.bufSize) rounds = .ok s) (h : Tracks s part)
    (g : NewsData) :
    ∃ ret g', newsResponse rounds g = .ok (ret, g') ∧ ((ret = 0 → Complete (bytes part)) ↔ Honest part) := by
  cases header : find blankLine (raw (bytes part)) with
  | none =>
    refine ⟨_, _, newsResponse_headless run h header g, ?_⟩
    by_cases nothing : part = []
    · rw [if_pos nothing]
      exact ⟨fun _ => ⟨h.defined, .inl nothing⟩, fun _ zero => absurd zero (by decide)⟩
    · rw [if_neg nothing]
      constructor
      · exact fun claimed => absurd (claimed rfl) (incomplete_of_headless header)
      · rintro ⟨-, nothing' | ⟨hdrEnd, header', -⟩⟩
        · exact absurd nothing' nothing
        · rw [header] at header'
          cases header'
  | some hdrEnd =>
    obtain ⟨ret, response, zero⟩ := newsResponse_found run h header g
    refine ⟨ret, _, response, ?_⟩
    rw [zero, complete_iff header]
    constructor
    · intro claimed
      refine ⟨h.defined, .inr ⟨hdrEnd, header, ?_⟩⟩
      by_cases more : Awaits part ((bytes part).drop (hdrEnd + 4)).length
      · exact .inl more
      · obtain ⟨n, announces, all⟩ := claimed more
        exact .inr ⟨n, announces, .inr all⟩
    · rintro ⟨-, rfl | ⟨hdrEnd', header', more | ⟨n, announces, covers⟩⟩⟩ enough
      · exact absurd (find_blank_le header) (by simp [bytes])
      · obtain rfl := Option.some.inj (header.symm.trans header')
        exact absurd more enough
      · obtain rfl := Option.some.inj (header.symm.trans header')
        rcases covers with read | all
        · exact ⟨n, announces, covered_of_read h.defined header read enough⟩
        · exact ⟨n, announces, all⟩

end Transfer

/-- **Success means complete** iff the chunks taken are honest: `http_request` then has no
undefined behaviour, and it returns 0 only for a complete answer. -/
theorem success_complete_iff (rounds : List Round) (g : NewsData) :
    (∃ ret g', httpRequestNews (.sent rounds) g = .ok (ret, g') ∧
      (ret = 0 → Complete (receivedBytes (start Client.news.bufSize) rounds))) ↔
      Honest (taken Client.news.bufSize [] (chunks rounds)) := by
  have pos : 0 < Client.news.bufSize := by decide
  rcases receive_start pos rounds with ⟨s, run, tracks⟩ | ⟨⟨fault, run⟩, undefined⟩
  · obtain ⟨ret, g', response, honest⟩ := zero_complete_iff run tracks g
    rw [receivedBytes_start pos, ← honest, httpRequestNews, response]
    constructor
    · rintro ⟨ret, g', ⟨⟩, complete⟩
      exact complete
    · exact fun complete => ⟨ret, g', rfl, complete⟩
  · constructor
    · rintro ⟨ret, g', response, -⟩
      rw [httpRequestNews, newsResponse, run] at response
      cases response
    · exact fun honest => absurd honest.defined undefined

/-- A header that announces the largest `int`. -/
def hugeLength : List Round :=
  oneChunk (ascii "HTTP/1.1 200 OK\r\nContent-Length: 2147483647\r\n\r\n") (by decide)

/-- A length that is not the answer's. -/
def otherLength : List Round :=
  oneChunk (ascii "HTTP/1.1 200 OK\r\nX-Content-Length: 2\r\nContent-Length: 17\r\n\r\n\x7b\x7d") (by decide)

/-- A cut header is a success, so is an answer behind the length of another field, and a huge length
is a signed overflow. -/
theorem cut_header_succeeds :
    httpRequestNews (.sent cutHeader) gNews = .ok (0, gNews) ∧
      ¬ Complete (receivedBytes (start Client.news.bufSize) cutHeader) ∧
      (∃ g, httpRequestNews (.sent otherLength) gNews = .ok (0, g)) ∧
      ¬ Complete (receivedBytes (start Client.news.bufSize) otherLength) ∧
      httpRequestNews (.sent hugeLength) gNews = .error .overflow := by
  have header : find blankLine (raw (receivedBytes (start Client.news.bufSize) otherLength)) = some 56 := by
    decide +kernel
  refine ⟨by decide +kernel, incomplete_of_headless (by decide +kernel), ?_, ?_, by decide +kernel⟩
  · exact ⟨gNews, by decide +kernel⟩
  · rw [complete_iff header]
    decide +kernel

end SmartClock.Net
