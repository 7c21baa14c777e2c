import SmartClock.Net.InfoRequest
import SmartClock.Net.NewsRequest

/-!
# A whole response in any chunks

Both clients, with the parser they hand the body to as a parameter: what they do with a
response that arrives completely does not depend on its chunks (`fetch_whole`). That it holds
for every parser says that the parser runs once, and on the body alone.
-/

namespace SmartClock.Net

open Text

section Parser

variable {σ : Type} (parse : CStr → σ → σ)

/-- The call of the parser behind the loop, if there is a body. -/
def parseBody (raw : CStr) (g : σ) : σ :=
  match find blankLine raw.1 with
  | some body => parse (dropStr raw (body + 4)) g
  | none => g

/-- The return value of `http_request` of `networking_config_news.c`. -/
def newsResult (raw : CStr) (total : Nat) (contentLength : Int) : Except Fault Int :=
  if contentLength > 0 then do
    let hdrSize := match find blankLine raw.1 with
      | some hdrEnd => hdrEnd + 4
      | none => 0
    let complete ← allReceived hdrSize total contentLength
    return if complete then 0 else -1
  else
    return if total > 0 then 0 else -1

/-- A client's return value. -/
def Client.result (raw : CStr) (total : Nat) (contentLength : Int) : Client → Except Fault Int
  | info => .ok (if total > 0 then 0 else -1)
  | news => newsResult raw total contentLength

/-- A client's `http_request` behind `send`, with any parser. -/
def fetch (client : Client) (rounds : List Round) (g : σ) : Except Fault (Int × σ) := do
  let s ← receive (start client.bufSize) rounds
  let raw ← rawText s.buf
  let ret ← client.result raw s.total s.contentLength
  return (ret, parseBody parse raw g)

end Parser

theorem infoResponse_eq_fetch : infoResponse = fetch parseInfo .info := rfl

theorem newsReturn_eq (raw : CStr) (total : Nat) (contentLength : Int) (g : NewsData) :
    newsReturn raw total contentLength g =
      (newsResult raw total contentLength).bind fun ret => .ok (ret, parseBody parseNewsTitles raw g) := by
  unfold newsReturn newsResult parseBody
  by_cases announced : contentLength > 0
  · simp only [if_pos announced]
    cases find blankLine raw.1 with
    | none => cases allReceived 0 total contentLength <;> rfl
    | some hdrEnd =>
      show (allReceived (hdrEnd + 4) total contentLength).bind _ = _
      cases allReceived (hdrEnd + 4) total contentLength <;> rfl
  · simp only [if_neg announced]
    rfl

theorem newsResponse_eq_fetch : newsResponse = fetch parseNewsTitles .news := by
  funext rounds g
  unfold newsResponse fetch
  simp only [newsReturn_eq]
  rfl

namespace HttpResponse

variable {r : HttpResponse}

/-- The loop on a whole response. -/
theorem receive_whole {client : Client} (fits : r.text.length ≤ client.bufSize - 1) {rounds : List Round}
    (whole : delivered rounds = r.text) :
    ∃ s, receive (start client.bufSize) rounds = .ok s ∧ Received s r.text ∧
      s.contentLength = r.body.1.length := by
  have size : 0 < client.bufSize ∧ (client.bufSize : Int) ≤ intMax := by cases client <;> decide
  have known : (start client.bufSize).contentLength = r.lengthKnown ([] : List UInt8).length := by
    rw [lengthKnown, if_neg (by simp [headerSize])]
    rfl
  have part : [] ++ delivered rounds <+: r.text := by rw [List.nil_append, whole]
  obtain ⟨s, run, received, length⟩ :=
    receive_part (by omega) size.2 rounds (received_start _) known part
  rw [List.nil_append, whole] at received length
  refine ⟨s, run, received, ?_⟩
  rw [length, lengthKnown, if_pos (by rw [r.length_text]; omega)]

theorem parseBody_text {σ : Type} (parse : CStr → σ → σ) (g : σ) :
    parseBody parse (upToZero r.text) g = parse r.body g := by
  have body : dropStr (upToZero r.text) (r.header.length + 4) = r.body := by
    apply Subtype.ext
    show (upToZero r.text).1.drop r.headerSize = r.body.1
    rw [upToZero_part (List.prefix_refl _), r.drop_headerSize]
  rw [parseBody, upToZero_part (List.prefix_refl _), r.blank]
  simp only [body]

/-- All of the announced length has arrived. -/
theorem newsResult_text (small : (r.text.length : Int) ≤ intMax) :
    newsResult (upToZero r.text) r.text.length r.body.1.length = .ok 0 := by
  have sized := r.length_text
  rw [newsResult, upToZero_part (List.prefix_refl _), r.blank]
  split
  · dsimp only
    rw [allReceived_text small, decide_eq_true (Nat.le_refl _)]
    rfl
  · rw [if_pos (by rw [sized]; simp [headerSize])]
    rfl

/-- However a response that fits the buffer arrives, the client hands the body, and nothing
else, to its parser once, and returns 0. -/
theorem fetch_whole {client : Client} (fits : r.text.length ≤ client.bufSize - 1) {rounds : List Round}
    (whole : delivered rounds = r.text) {σ : Type} (parse : CStr → σ → σ) (g : σ) :
    fetch parse client rounds g = .ok (0, parse r.body g) := by
  have size : 0 < client.bufSize ∧ (client.bufSize : Int) ≤ intMax := by cases client <;> decide
  obtain ⟨s, run, received, length⟩ := receive_whole fits whole
  have ends : Terminated client.bufSize r.text := .inl (by omega)
  have sized := r.length_text
  have pos : s.total > 0 := by rw [received.total, sized]; simp [headerSize]
  have zero : client.result (upToZero r.text) s.total s.contentLength = .ok 0 := by
    cases client with
    | info => rw [Client.result, if_pos pos]
    | news => rw [Client.result, received.total, length, newsResult_text (by omega)]
  rw [fetch, run]
  show (rawText s.buf >>= _) = _
  rw [rawText_eq received ends]
  show (client.result (upToZero r.text) s.total s.contentLength >>= _) = _
  rw [zero]
  show Except.ok ((0 : Int), parseBody parse (upToZero r.text) g) = _
  rw [parseBody_text]

end HttpResponse

/-- The answer for Oslo, cut inside the name of the length's header and inside the body. -/
def osloChunks : List Round :=
  oneChunk (osloResponse.text.take 60) (by decide +kernel) ++
    oneChunk ((osloResponse.text.drop 60).take 100) (by decide +kernel) ++
    oneChunk (osloResponse.text.drop 160) (by decide +kernel)

end SmartClock.Net
