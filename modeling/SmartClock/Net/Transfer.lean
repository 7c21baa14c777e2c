import SmartClock.Net.Receive
import Mathlib.Data.List.Infix

/-!
# A transfer, chunk by chunk

What the loop knows behind some chunks depends on the chunks alone: on their bytes, on the first
length that these showed at the end of a chunk (`firstLength`), and on where their header ends.
It reads while it has less than `size - 1` bytes and the answer has not ended, so `taken` tells
which chunks it takes. `Tracks.pass` is one pass of the loop in these terms, and `receive_taken`
a whole run.
-/

namespace SmartClock.Net

open Text

variable {size : Nat}

/-! ## Chunks -/

/-- The chunks that come before `zsock_poll` or `recv` breaks the loop. -/
def chunks : List Round → List Chunk
  | [] => []
  | round :: rounds =>
    match round.chunk with
    | none => []
    | some chunk => chunk :: chunks rounds

def bytes (part : List Chunk) : List UInt8 := part.flatMap Chunk.bytes

/-- What the string functions read of the received bytes. -/
def raw (data : List UInt8) : List UInt8 := (upToZero data).1

/-- The length a text shows, if it has the key and a blank line. -/
def lengthIn (text : List UInt8) : Option Int :=
  match find contentLengthKey text, find blankLine text with
  | some cl, some _ => some (atoi (text.drop (cl + 16)))
  | _, _ => none

/-- The first length shown at the end of a chunk. -/
def firstLength (part : List Chunk) : Option Int :=
  part.inits.findSome? fun p => lengthIn (raw (bytes p))

/-- The size of the answer, once header and length are known. -/
def answerSize (part : List Chunk) : Option Int :=
  match firstLength part, find blankLine (raw (bytes part)) with
  | some length, some hdrEnd => some (((hdrEnd + 4 : Nat) : Int) + length)
  | _, _ => none

/-- The answer has ended, or its size is not an `int`. -/
def ended (part : List Chunk) : Bool :=
  (answerSize part).any fun n => decide (n ≤ ((bytes part).length : Int) ∨ intMax < n)

/-- The chunks the loop takes of those that come behind a part. -/
def taken (size : Nat) (part : List Chunk) : List Chunk → List Chunk
  | [] => part
  | chunk :: later =>
    if (bytes part).length < size - 1 ∧ ended part = false then taken size (part ++ [chunk]) later else part

/-- The string functions find a NUL, and the size of the answer is an `int`. -/
structure Defined (size : Nat) (part : List Chunk) : Prop where
  terminated : Terminated size (bytes part)
  bounded : ∀ length ∈ firstLength part, ∀ hdrEnd ∈ find blankLine (raw (bytes part)),
    length ≤ intMax - (hdrEnd + 4 : Nat)

section Chunks

variable {part : List Chunk} {chunk : Chunk}

theorem bytes_append (part later : List Chunk) : bytes (part ++ later) = bytes part ++ bytes later :=
  List.flatMap_append

theorem bytes_concat (part : List Chunk) (chunk : Chunk) : bytes (part ++ [chunk]) = bytes part ++ chunk.bytes := by
  rw [bytes_append]
  exact congrArg (bytes part ++ ·) (List.append_nil chunk.bytes)

theorem length_bytes_concat (part : List Chunk) (chunk : Chunk) :
    (bytes (part ++ [chunk])).length = (bytes part).length + chunk.bytes.length := by
  rw [bytes_concat, List.length_append]

theorem bytes_eq_nil {part : List Chunk} (none : bytes part = []) : part = [] := by
  cases part with
  | nil => rfl
  | cons chunk part => exact absurd (List.append_eq_nil_iff.1 none).1 chunk.nonempty

theorem length_raw_le (data : List UInt8) : (raw data).length ≤ data.length :=
  (List.takeWhile_sublist _).length_le

/-- More bytes keep what was read of the earlier ones. -/
theorem raw_append (data more : List UInt8) : raw data <+: raw (data ++ more) := by
  by_cases zero : 0 ∈ data
  · rw [raw, raw, upToZero_append_of_zero zero]
  · rw [raw, upToZero_of_no_zero zero]
    show data <+: (data ++ more).takeWhile (· != 0)
    rw [List.takeWhile_append_of_pos fun b inside => by simpa using fun e : b = 0 => zero (e ▸ inside)]
    exact List.prefix_append _ _

/-- A first blank line stays the first. -/
theorem find_blank_append {data : List UInt8} {hdrEnd : Nat} (found : find blankLine (raw data) = some hdrEnd)
    (more : List UInt8) : find blankLine (raw (data ++ more)) = some hdrEnd := by
  obtain ⟨rest, eq⟩ := raw_append data more
  rw [← eq]
  exact find_append_left (by decide) rest found

theorem find_blank_le {data : List UInt8} {hdrEnd : Nat} (found : find blankLine (raw data) = some hdrEnd) :
    hdrEnd + 4 ≤ data.length :=
  Nat.le_trans (find_le found) (length_raw_le data)

theorem lengthIn_eq_some {text : List UInt8} {n : Int} (read : lengthIn text = some n) :
    intMin ≤ n ∧ ∃ hdrEnd, find blankLine text = some hdrEnd := by
  unfold lengthIn at read
  split at read
  · rename_i cl hdrEnd key found
    obtain rfl := Option.some.inj read
    exact ⟨(atoi_range _).1, hdrEnd, found⟩
  · cases read

theorem firstLength_nil : firstLength [] = none := by decide

theorem firstLength_concat (part : List Chunk) (chunk : Chunk) :
    firstLength (part ++ [chunk]) = (firstLength part).or (lengthIn (raw (bytes (part ++ [chunk])))) := by
  rw [firstLength, List.inits_append, List.findSome?_append]
  show (firstLength part).or (List.findSome? _ [part ++ [chunk]]) = _
  rw [List.findSome?_singleton]

/-- A length is read behind a blank line. -/
theorem firstLength_eq_some {n : Int} (first : firstLength part = some n) :
    intMin ≤ n ∧ ∃ hdrEnd, find blankLine (raw (bytes part)) = some hdrEnd := by
  obtain ⟨p, inside, read⟩ := List.exists_of_findSome?_eq_some first
  obtain ⟨later, rfl⟩ := (List.mem_inits p part).1 inside
  obtain ⟨low, hdrEnd, found⟩ := lengthIn_eq_some read
  exact ⟨low, hdrEnd, by rw [bytes_append]; exact find_blank_append found _⟩

theorem answerSize_eq {n : Int} {hdrEnd : Nat} (first : firstLength part = some n)
    (found : find blankLine (raw (bytes part)) = some hdrEnd) :
    answerSize part = some (((hdrEnd + 4 : Nat) : Int) + n) := by
  rw [answerSize, first, found]

theorem answerSize_none (unread : firstLength part = none) : answerSize part = none := by
  rw [answerSize, unread]

theorem ended_eq_false : ended part = false ↔ ∀ n ∈ answerSize part, (bytes part).length < n ∧ n ≤ intMax := by
  rw [ended]
  cases answerSize part <;> simp

/-- A length below 0 ends the answer in its header. -/
theorem nonneg_of_goes (goes : ended part = false) {n : Int} (first : firstLength part = some n) : 0 ≤ n := by
  obtain ⟨-, hdrEnd, found⟩ := firstLength_eq_some first
  obtain ⟨more, -⟩ := ended_eq_false.1 goes _ (answerSize_eq first found)
  have inside := find_blank_le found
  omega

theorem bounded_iff : (∀ length ∈ firstLength part, ∀ hdrEnd ∈ find blankLine (raw (bytes part)),
      length ≤ intMax - (hdrEnd + 4 : Nat)) ↔ ∀ n ∈ answerSize part, n ≤ intMax := by
  cases first : firstLength part with
  | none => simp [answerSize_none first]
  | some n =>
    obtain ⟨-, hdrEnd, found⟩ := firstLength_eq_some first
    rw [answerSize_eq first found, found]
    simp only [Option.mem_some_iff, forall_eq']
    omega

end Chunks

/-! ## One pass -/

/-- The loop's variables behind some chunks. -/
structure Tracks (s : RecvState size) (part : List Chunk) : Prop where
  received : Received s (bytes part)
  length : s.contentLength = (firstLength part).getD (-1)
  defined : Defined size part

theorem tracks_start (pos : 0 < size) : Tracks (start size) [] where
  received := received_start size
  length := rfl
  defined := ⟨.inl pos, by rw [firstLength_nil]; nofun⟩

theorem allReceived_eq {headerSize total : Nat} {length : Int} (low : intMin ≤ length) :
    allReceived headerSize total length =
      if (headerSize : Int) + length ≤ intMax then .ok (decide ((headerSize : Int) + length ≤ total))
      else .error .overflow := by
  rw [allReceived]
  by_cases high : (headerSize : Int) + length ≤ intMax
  · rw [if_pos ⟨by omega, high⟩, if_pos high]
  · rw [if_neg fun range => high range.2, if_neg high]

section Pass

variable {s : RecvState size} {part : List Chunk} {chunk : Chunk}

/-- What the pass behind a part makes of the size of the answer, if it is known by then. -/
def checked (part : List Chunk) : Except Fault (Int × Bool) :=
  match answerSize part with
  | none => .ok ((firstLength part).getD (-1), false)
  | some n =>
    if n ≤ intMax then .ok ((firstLength part).getD (-1), decide (n ≤ (bytes part).length)) else .error .overflow

theorem checked_known {hdrEnd : Nat} {length : Int} (first : firstLength part = some length)
    (found : find blankLine (raw (bytes part)) = some hdrEnd) :
    (do return (length, ← allReceived (hdrEnd + 4) (bytes part).length length) : Except Fault (Int × Bool)) =
      checked part := by
  rw [checked, answerSize_eq first found, allReceived_eq (firstLength_eq_some first).1, first]
  dsimp only
  split <;> rfl

theorem checked_unknown (unread : firstLength part = none) : checked part = .ok (-1, false) := by
  rw [checked, answerSize_none unread, unread]
  rfl

theorem checkLength_part (goes : ended part = false) (chunk : Chunk) :
    checkLength (upToZero (bytes (part ++ [chunk]))) (bytes (part ++ [chunk])).length
      ((firstLength part).getD (-1)) = checked (part ++ [chunk]) := by
  have grown := firstLength_concat part chunk
  rw [checkLength, show (upToZero (bytes (part ++ [chunk]))).1 = raw (bytes (part ++ [chunk])) from rfl]
  cases before : firstLength part with
  | none =>
    -- the length is still to be read
    rw [before, Option.none_or, lengthIn] at grown
    rw [Option.getD_none, if_pos (by decide)]
    split
    · rename_i cl hdrEnd key found
      rw [key, found] at grown
      exact checked_known grown found
    · rename_i missing
      split at grown
      · rename_i cl hdrEnd key found
        exact absurd found (missing cl hdrEnd key)
      · exact (checked_unknown grown).symm
  | some length =>
    -- it was read behind the same blank line
    rw [before, Option.some_or] at grown
    have nonneg := nonneg_of_goes goes before
    obtain ⟨-, hdrEnd, found⟩ := firstLength_eq_some grown
    rw [Option.getD_some, if_neg (by omega), found]
    exact checked_known grown found

/-- It faults exactly where the size is no `int`, and is the last one where the answer ends. -/
theorem checked_cases (part : List Chunk) :
    checked part = .error .overflow ∧ ended part = true ∧ (∃ n ∈ answerSize part, intMax < n) ∨
      checked part = .ok ((firstLength part).getD (-1), ended part) ∧ ∀ n ∈ answerSize part, n ≤ intMax := by
  rw [checked, ended]
  cases answerSize part with
  | none => exact .inr ⟨rfl, nofun⟩
  | some n =>
    by_cases high : n ≤ intMax
    · right
      have low : ¬ intMax < n := by omega
      simp only [if_pos high, Option.any_some, low, or_false, Option.mem_some_iff, forall_eq']
      exact ⟨trivial, high⟩
    · left
      simp only [if_neg high, Option.any_some, decide_eq_true_eq, Option.mem_some_iff, exists_eq_left']
      exact ⟨trivial, by omega, by omega⟩

/-- A pass that keeps a NUL in the buffer. -/
theorem Tracks.step (h : Tracks s part) (goes : ended part = false)
    (kept : Terminated size (bytes (part ++ [chunk]))) :
    Net.step s chunk = .error .overflow ∧ ended (part ++ [chunk]) = true ∧ ¬ Defined size (part ++ [chunk]) ∨
      ∃ s', Net.step s chunk = .ok (s', ended (part ++ [chunk])) ∧ Tracks s' (part ++ [chunk]) := by
  have pass := @step_eq _ _ _ h.received chunk (by rwa [← bytes_concat])
  rw [← bytes_concat, h.length, checkLength_part goes chunk] at pass
  rcases checked_cases (part ++ [chunk]) with ⟨faults, last, n, size, high⟩ | ⟨goesOn, bounded⟩
  · rw [faults] at pass
    refine .inl ⟨pass, last, fun defined => ?_⟩
    have low := bounded_iff.1 defined.bounded n size
    omega
  · rw [goesOn] at pass
    obtain ⟨s', stepped, received, length⟩ := pass
    exact .inr ⟨s', stepped, received, length, kept, bounded_iff.2 bounded⟩

end Pass

/-! ## Runs -/

section Taken

variable {part : List Chunk} {chunk : Chunk} {later : List Chunk}

theorem taken_ended (last : ended part = true) : taken size part later = part := by
  cases later with
  | nil => rfl
  | cons chunk later => rw [taken, if_neg fun goes => absurd goes.2 (by rw [last]; exact Bool.noConfusion)]

theorem taken_full (full : size - 1 ≤ (bytes part).length) : taken size part later = part := by
  cases later with
  | nil => rfl
  | cons chunk later => rw [taken, if_neg fun goes => absurd goes.1 (by omega)]

theorem taken_more (room : (bytes part).length < size - 1) (goes : ended part = false) :
    taken size part (chunk :: later) = taken size (part ++ [chunk]) later := by
  rw [taken, if_pos ⟨room, goes⟩]

end Taken

/-- What the loop does with a round: it stops in front of it, it faults, or it takes the chunk. -/
inductive Pass (s : RecvState size) (part : List Chunk) (round : Round) (rounds : List Round) : Prop where
  | stops (quiet : arrives s round = none) (all : taken size part (chunks (round :: rounds)) = part)
  | faults (chunk : Chunk) (fault : Fault) (arrived : arrives s round = some chunk)
      (stepped : step s chunk = .error fault)
      (all : taken size part (chunks (round :: rounds)) = part ++ [chunk])
      (undefined : ¬ Defined size (part ++ [chunk]))
      (why : fault = .overflow ∧ Terminated size (bytes (part ++ [chunk])) ∨
        ¬ Terminated size (bytes (part ++ [chunk])) ∧
          (fault = .overrun ∧ size < (bytes (part ++ [chunk])).length ∨ fault = .unterminated))
  | last (chunk : Chunk) (s' : RecvState size) (arrived : arrives s round = some chunk)
      (stepped : step s chunk = .ok (s', true))
      (all : taken size part (chunks (round :: rounds)) = part ++ [chunk]) (tracks : Tracks s' (part ++ [chunk]))
  | more (chunk : Chunk) (s' : RecvState size) (arrived : arrives s round = some chunk)
      (stepped : step s chunk = .ok (s', false))
      (all : taken size part (chunks (round :: rounds)) = taken size (part ++ [chunk]) (chunks rounds))
      (tracks : Tracks s' (part ++ [chunk])) (goes : ended (part ++ [chunk]) = false)

theorem Tracks.pass {s : RecvState size} {part : List Chunk} (h : Tracks s part) (goes : ended part = false)
    (round : Round) (rounds : List Round) : Pass s part round rounds := by
  by_cases room : (bytes part).length < size - 1
  · have guard : s.total < size - 1 := by rw [h.received.total]; exact room
    cases came : round.chunk with
    | none =>
      refine .stops (by rw [arrives, if_pos guard, came]) ?_
      rw [chunks, came]
      rfl
    | some chunk =>
      have arrived : arrives s round = some chunk := by rw [arrives, if_pos guard, came]
      have all : taken size part (chunks (round :: rounds)) = taken size (part ++ [chunk]) (chunks rounds) := by
        rw [chunks, came]
        exact taken_more room goes
      by_cases kept : Terminated size (bytes (part ++ [chunk]))
      · rcases h.step goes kept with ⟨overflow, last, undefined⟩ | ⟨s', stepped, tracks⟩
        · exact .faults chunk .overflow arrived overflow (all.trans (taken_ended last)) undefined
            (.inl ⟨rfl, kept⟩)
        · cases last : ended (part ++ [chunk]) with
          | true =>
            rw [last] at stepped
            exact .last chunk s' arrived stepped (all.trans (taken_ended last)) tracks
          | false =>
            rw [last] at stepped
            exact .more chunk s' arrived stepped all tracks last
      · -- the chunk takes the last NUL
        have full : size - 1 ≤ (bytes (part ++ [chunk])).length := by
          rw [Terminated] at kept
          omega
        have undefined : ¬ Defined size (part ++ [chunk]) := fun defined => kept defined.terminated
        have grown := length_bytes_concat part chunk
        rcases step_fault h.received (by rwa [← bytes_concat]) with ⟨overrun, past⟩ | unterminated
        · exact .faults chunk .overrun arrived overrun (all.trans (taken_full full)) undefined
            (.inr ⟨kept, .inl ⟨rfl, by omega⟩⟩)
        · exact .faults chunk .unterminated arrived unterminated (all.trans (taken_full full)) undefined
            (.inr ⟨kept, .inr rfl⟩)
  · have guard : ¬ s.total < size - 1 := by rw [h.received.total]; exact room
    exact .stops (by rw [arrives, if_neg guard]) (taken_full (by omega))

/-- **A run of the loop** ends with the chunks it takes, if that is defined, and faults otherwise. -/
theorem receive_taken {rounds : List Round} {s : RecvState size} {part : List Chunk} (h : Tracks s part)
    (goes : ended part = false) :
    (∃ s', receive s rounds = .ok s' ∧ Tracks s' (taken size part (chunks rounds))) ∨
      (∃ fault, receive s rounds = .error fault) ∧ ¬ Defined size (taken size part (chunks rounds)) := by
  induction rounds generalizing s part with
  | nil => exact .inl ⟨s, rfl, h⟩
  | cons round rounds ih =>
    cases h.pass goes round rounds with
    | stops quiet all =>
      rw [all]
      exact .inl ⟨s, receive_stop rounds quiet, h⟩
    | faults chunk fault arrived stepped all undefined _ =>
      rw [all]
      exact .inr ⟨⟨fault, receive_fault rounds arrived stepped⟩, undefined⟩
    | last chunk s' arrived stepped all tracks =>
      rw [all]
      exact .inl ⟨s', receive_done rounds arrived stepped, tracks⟩
    | more chunk s' arrived stepped all tracks goes' =>
      rw [all, receive_more rounds arrived stepped]
      exact ih tracks goes'

/-- The `memcpy`s of a run: the variables before each, and its chunk. -/
def reads (s : RecvState size) : List Round → List (RecvState size × Chunk)
  | [] => []
  | round :: rounds =>
    match arrives s round with
    | none => []
    | some chunk =>
      (s, chunk) :: match step s chunk with
        | .ok (s, false) => reads s rounds
        | _ => []

section Rounds

variable {s s' : RecvState size} {round : Round} {chunk : Chunk} (rounds : List Round)

theorem reads_stop (stops : arrives s round = none) : reads s (round :: rounds) = [] := by
  simp [reads, stops]

theorem reads_fault {fault : Fault} (arrived : arrives s round = some chunk)
    (faults : step s chunk = .error fault) : reads s (round :: rounds) = [(s, chunk)] := by
  simp [reads, arrived, faults]

theorem reads_done (arrived : arrives s round = some chunk) (done : step s chunk = .ok (s', true)) :
    reads s (round :: rounds) = [(s, chunk)] := by
  simp [reads, arrived, done]

theorem reads_more (arrived : arrives s round = some chunk) (more : step s chunk = .ok (s', false)) :
    reads s (round :: rounds) = (s, chunk) :: reads s' rounds := by
  simp [reads, arrived, more]

end Rounds

/-- All bytes that a run receives. -/
def receivedBytes (s : RecvState size) (rounds : List Round) : List UInt8 :=
  (reads s rounds).flatMap fun r => r.2.bytes

/-- They are those of the chunks it takes. -/
theorem receivedBytes_taken {rounds : List Round} {s : RecvState size} {part : List Chunk} (h : Tracks s part)
    (goes : ended part = false) :
    bytes part ++ receivedBytes s rounds = bytes (taken size part (chunks rounds)) := by
  induction rounds generalizing s part with
  | nil => exact List.append_nil _
  | cons round rounds ih =>
    rw [receivedBytes]
    cases h.pass goes round rounds with
    | stops quiet all =>
      rw [all, reads_stop rounds quiet]
      exact List.append_nil _
    | faults chunk fault arrived stepped all =>
      rw [all, reads_fault rounds arrived stepped]
      rw [List.flatMap_singleton, bytes_concat]
    | last chunk s' arrived stepped all =>
      rw [all, reads_done rounds arrived stepped]
      rw [List.flatMap_singleton, bytes_concat]
    | more chunk s' arrived stepped all tracks goes' =>
      rw [all, reads_more rounds arrived stepped, List.flatMap_cons, ← List.append_assoc, ← bytes_concat]
      exact ih tracks goes'

/-! ## The whole transfer -/

theorem receive_start (pos : 0 < size) (rounds : List Round) :
    (∃ s, receive (start size) rounds = .ok s ∧ Tracks s (taken size [] (chunks rounds))) ∨
      (∃ fault, receive (start size) rounds = .error fault) ∧ ¬ Defined size (taken size [] (chunks rounds)) :=
  receive_taken (tracks_start pos) rfl

theorem receivedBytes_start (pos : 0 < size) (rounds : List Round) :
    receivedBytes (start size) rounds = bytes (taken size [] (chunks rounds)) :=
  receivedBytes_taken (tracks_start pos) rfl

end SmartClock.Net
