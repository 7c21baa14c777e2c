import SmartClock.Text.CharArray

/-!
# The receive loop

The loop that `http_request` has in `network_config.c` and again in
`networking_config_news.c`, for any buffer size. What `zsock_poll` and `recv` give in each
round is an input. Undefined behaviour is a `Fault`: a `memcpy` past the buffer, a string
function on a buffer without a NUL, an `int` sum out of range. `Received` is the loop's
invariant, and `step_eq` and `step_fault` are one pass of it.
-/

namespace SmartClock.Net

open Text

inductive Fault where
  | overrun
  | unterminated
  | overflow
deriving DecidableEq

/-- The bytes of a successful `recv`, at most `sizeof(chunk) - 1`. -/
structure Chunk where
  bytes : List UInt8
  nonempty : bytes ≠ []
  fits : bytes.length ≤ 255

/-- One round: the result of `zsock_poll`, whether `revents` has `ZSOCK_POLLIN`, and what
`recv` gives if it is called, `none` for `n <= 0`. -/
structure Round where
  poll : Int
  pollin : Bool
  recv : Option Chunk

/-- The clients, by their buffers: `shared_http_buf` and `news_buf`. -/
inductive Client where
  | info
  | news
deriving DecidableEq

def Client.bufSize : Client → Nat
  | info => 3072
  | news => 5120

/-- The variables of the loop. -/
structure RecvState (size : Nat) where
  buf : CharArray size
  total : Nat
  contentLength : Int

variable {size : Nat}

/-- The variables after `memset`. -/
def start (size : Nat) : RecvState size := ⟨Vector.replicate size 0, 0, -1⟩

def contentLengthKey : List UInt8 := ascii "Content-Length: "

def blankLine : List UInt8 := ascii "\r\n\r\n"

/-- What the string functions read of the buffer. -/
def rawText (buf : CharArray size) : Except Fault CStr :=
  match cstr buf.toList with
  | some raw => .ok raw
  | none => .error .unterminated

/-- `total >= header_size + content_length` -/
def allReceived (headerSize total : Nat) (contentLength : Int) : Except Fault Bool :=
  let announced := (headerSize : Int) + contentLength
  if intMin ≤ announced ∧ announced ≤ intMax then .ok (decide (announced ≤ total)) else .error .overflow

/-- The rest of the loop's body, on the text in the buffer: `content_length`, and whether the
loop breaks. -/
def checkLength (raw : CStr) (total : Nat) (contentLength : Int) : Except Fault (Int × Bool) :=
  if contentLength < 0 then
    match find contentLengthKey raw.1, find blankLine raw.1 with
    | some cl, some hdrEnd => do
      let contentLength := atoi (raw.1.drop (cl + 16))
      return (contentLength, ← allReceived (hdrEnd + 4) total contentLength)
    | _, _ => return (contentLength, false)
  else
    match find blankLine raw.1 with
    | some hdrEnd => return (contentLength, ← allReceived (hdrEnd + 4) total contentLength)
    | none => return (contentLength, false)

/-- `memcpy(buf + total, chunk, n); total += n;` -/
def store (s : RecvState size) (chunk : Chunk) : Except Fault (RecvState size) :=
  match memcpy s.buf s.total chunk.bytes with
  | some buf => .ok { s with buf, total := s.total + chunk.bytes.length }
  | none => .error .overrun

/-- The loop's body behind a successful `recv`. -/
def step (s : RecvState size) (chunk : Chunk) : Except Fault (RecvState size × Bool) := do
  let s ← store s chunk
  let raw ← rawText s.buf
  let (contentLength, done) ← checkLength raw s.total s.contentLength
  return ({ s with contentLength }, done)

/-- `zsock_poll` and `recv`: the chunk, if neither breaks. -/
def Round.chunk (round : Round) : Option Chunk :=
  if round.poll = 0 then none
  else if round.poll < 0 ∧ round.pollin = false then none
  else round.recv

/-- The loop's guard in front of them. -/
def arrives (s : RecvState size) (round : Round) : Option Chunk :=
  if s.total < size - 1 then round.chunk else none

/-- The loop. Behind the rounds given, `recv` returns 0. -/
def receive (s : RecvState size) : List Round → Except Fault (RecvState size)
  | [] => .ok s
  | round :: rounds =>
    match arrives s round with
    | none => .ok s
    | some chunk =>
      match step s chunk with
      | .error fault => .error fault
      | .ok (s, true) => .ok s
      | .ok (s, false) => receive s rounds

/-- The bytes a transfer delivers before it stops. -/
def delivered : List Round → List UInt8
  | [] => []
  | round :: rounds =>
    match round.chunk with
    | none => []
    | some chunk => chunk.bytes ++ delivered rounds

section Rounds

variable {s s' : RecvState size} {round : Round} {chunk : Chunk} (rounds : List Round)

theorem receive_stop (stops : arrives s round = none) : receive s (round :: rounds) = .ok s := by
  simp [receive, stops]

theorem receive_fault {fault : Fault} (arrived : arrives s round = some chunk)
    (faults : step s chunk = .error fault) : receive s (round :: rounds) = .error fault := by
  simp [receive, arrived, faults]

theorem receive_done (arrived : arrives s round = some chunk) (done : step s chunk = .ok (s', true)) :
    receive s (round :: rounds) = .ok s' := by
  simp [receive, arrived, done]

theorem receive_more (arrived : arrives s round = some chunk) (more : step s chunk = .ok (s', false)) :
    receive s (round :: rounds) = receive s' rounds := by
  simp [receive, arrived, more]

end Rounds

/-- What happens in one call of `http_request`: `socket`, `connect` or `send` fails, or the
request is sent and the response comes in rounds. -/
inductive Attempt where
  | failed (errno : Nat) (nonzero : errno ≠ 0)
  | sent (rounds : List Round)

/-! ## One pass -/

/-- The loop invariant: the buffer holds the bytes received and NULs behind them. -/
structure Received (s : RecvState size) (data : List UInt8) : Prop where
  holds : HoldsZeroed s.buf data
  total : s.total = data.length

theorem Received.take {s : RecvState size} {data : List UInt8} (h : Received s data) :
    s.buf.toList.take s.total = data := by
  rw [h.total, h.holds.2, List.take_left]

/-- The buffer still has a NUL. -/
def Terminated (size : Nat) (data : List UInt8) : Prop := data.length < size ∨ data.length = size ∧ 0 ∈ data

theorem received_start (size : Nat) : Received (start size) [] := ⟨holdsZeroed_zero, rfl⟩

theorem Received.le {s : RecvState size} {data : List UInt8} (h : Received s data) : data.length ≤ size :=
  h.holds.1

theorem terminated_iff {s : RecvState size} {data : List UInt8} (h : Received s data) :
    Terminated size data ↔ 0 ∈ s.buf.toList := by
  have le := h.le
  rw [h.holds.2, List.mem_append, List.mem_replicate]
  unfold Terminated
  by_cases zero : 0 ∈ data
  · simp only [zero, and_true, true_or, iff_true]
    omega
  · simp only [zero, and_false, or_false, false_or, and_true]
    omega

theorem rawText_eq {s : RecvState size} {data : List UInt8} (h : Received s data)
    (ends : Terminated size data) : rawText s.buf = .ok (upToZero data) := by
  have ends' : 0 < size - data.length ∨ 0 ∈ data := by
    rcases ends with less | ⟨-, zero⟩
    · exact .inl (by omega)
    · exact .inr zero
  rw [rawText, h.holds.2, cstr_zeroed ends']

theorem rawText_fault {s : RecvState size} {data : List UInt8} (h : Received s data)
    (ends : ¬ Terminated size data) : rawText s.buf = .error .unterminated := by
  rw [terminated_iff h] at ends
  rw [rawText, cstr_eq_none_iff.2 ends]

theorem store_eq {s : RecvState size} {data : List UInt8} (h : Received s data) {chunk : Chunk}
    (fits : data.length + chunk.bytes.length ≤ size) :
    ∃ s', store s chunk = .ok s' ∧ Received s' (data ++ chunk.bytes) ∧
      s'.contentLength = s.contentLength := by
  obtain ⟨buf, copied, holds⟩ := h.holds.memcpy fits
  refine ⟨{ s with buf, total := s.total + chunk.bytes.length }, ?_, ⟨holds, ?_⟩, rfl⟩
  · rw [store, h.total, copied]
  · rw [List.length_append, ← h.total]

theorem store_fault {s : RecvState size} {data : List UInt8} (h : Received s data) {chunk : Chunk}
    (past : size < data.length + chunk.bytes.length) : store s chunk = .error .overrun := by
  have missing : memcpy s.buf s.total chunk.bytes = none := memcpy_eq_none_iff.2 (by rw [h.total]; exact past)
  rw [store, missing]

/-- A pass that keeps a NUL in the buffer: what it does is what `checkLength` says. -/
theorem step_eq {s : RecvState size} {data : List UInt8} (h : Received s data) {chunk : Chunk}
    (ends : Terminated size (data ++ chunk.bytes)) :
    match checkLength (upToZero (data ++ chunk.bytes)) (data ++ chunk.bytes).length s.contentLength with
    | .error fault => step s chunk = .error fault
    | .ok (contentLength, done) => ∃ s', step s chunk = .ok (s', done) ∧
        Received s' (data ++ chunk.bytes) ∧ s'.contentLength = contentLength := by
  have fits : data.length + chunk.bytes.length ≤ size := by
    rw [← List.length_append]
    rcases ends with less | ⟨full, -⟩
    · omega
    · omega
  obtain ⟨s', stored, received, length⟩ := store_eq h fits
  have whole : step s chunk = (do
      let (contentLength, done) ← checkLength (upToZero (data ++ chunk.bytes)) s'.total s.contentLength
      return ({ s' with contentLength }, done)) := by
    rw [step, stored]
    show (rawText s'.buf >>= _) = _
    rw [rawText_eq received ends, ← length]
    rfl
  rw [whole, received.total]
  split
  · rename_i fault eq
    rw [eq]
    rfl
  · rename_i contentLength done eq
    rw [eq]
    exact ⟨⟨s'.buf, (data ++ chunk.bytes).length, contentLength⟩, rfl, ⟨received.holds, rfl⟩, rfl⟩

/-- A pass that does not. -/
theorem step_fault {s : RecvState size} {data : List UInt8} (h : Received s data) {chunk : Chunk}
    (ends : ¬ Terminated size (data ++ chunk.bytes)) :
    step s chunk = .error .overrun ∧ size < data.length + chunk.bytes.length ∨
      step s chunk = .error .unterminated := by
  by_cases fits : data.length + chunk.bytes.length ≤ size
  · right
    obtain ⟨s', stored, received, -⟩ := store_eq h fits
    rw [step, stored]
    show (rawText s'.buf >>= _) = _
    rw [rawText_fault received ends]
    rfl
  · left
    refine ⟨?_, by omega⟩
    rw [step, store_fault h (by omega)]
    rfl

end SmartClock.Net
