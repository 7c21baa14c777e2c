import SmartClock.Net.Transfer

/-!
# Buffer safety of the receive loop

The guard bounds the bytes received before a `recv`, not those after it. So what counts is the
chunk that takes the transfer to `size - 1` bytes or past them, if the loop gets to read it: it
has to end just there, since the next byte takes the terminator's place, and a longer chunk is
written past the buffer. `receive_safe_iff` says that this is the only way to lose safety.
-/

namespace SmartClock.Net

open Text

variable {size : Nat}

/-- Every `memcpy` stays in the buffer, no string function reads past it, and after the loop
it has a NUL. -/
structure Safe (s : RecvState size) (rounds : List Round) : Prop where
  inside : ∀ r ∈ reads s rounds, r.1.total + r.2.bytes.length ≤ size
  strings : receive s rounds ≠ .error .unterminated
  terminated : ∀ s', receive s rounds = .ok s' → ∃ i, s'.buf.get i = 0

theorem exists_zero_iff {s : RecvState size} {data : List UInt8} (h : Received s data) :
    (∃ i, s.buf.get i = 0) ↔ Terminated size data := by
  rw [terminated_iff h, Vector.mem_toList_iff, Vector.mem_iff_getElem]
  constructor
  · rintro ⟨i, zero⟩
    exact ⟨i, i.isLt, zero⟩
  · rintro ⟨i, lt, zero⟩
    exact ⟨⟨i, lt⟩, zero⟩

/-- A run that ends where it is, with a NUL in the buffer. -/
theorem safe_of_ok {s s' : RecvState size} {part : List Chunk} {rounds : List Round}
    (inside : ∀ r ∈ reads s rounds, r.1.total + r.2.bytes.length ≤ size)
    (run : receive s rounds = .ok s') (h : Tracks s' part) : Safe s rounds := by
  refine ⟨inside, by rw [run]; nofun, fun s'' eq => ?_⟩
  rw [run] at eq
  cases eq
  exact (exists_zero_iff h.received).2 h.defined.terminated

theorem inside_of_terminated {s : RecvState size} {part : List Chunk} (h : Tracks s part) {chunk : Chunk}
    (kept : Terminated size (bytes (part ++ [chunk]))) : s.total + chunk.bytes.length ≤ size := by
  rw [h.received.total, ← length_bytes_concat]
  rcases kept with less | ⟨full, -⟩ <;> omega

/-- The run from any state of the loop. -/
theorem safe_taken {rounds : List Round} {s : RecvState size} {part : List Chunk} (h : Tracks s part)
    (goes : ended part = false) :
    Safe s rounds ↔ Terminated size (bytes (taken size part (chunks rounds))) := by
  induction rounds generalizing s part with
  | nil => exact ⟨fun _ => h.defined.terminated, fun _ => safe_of_ok nofun rfl h⟩
  | cons round rounds ih =>
    cases h.pass goes round rounds with
    | stops quiet all =>
      rw [all]
      have read := reads_stop rounds quiet
      exact ⟨fun _ => h.defined.terminated, fun _ => safe_of_ok (by rw [read]; nofun) (receive_stop rounds quiet) h⟩
    | faults chunk fault arrived stepped all _ why =>
      rw [all]
      have read := reads_fault rounds arrived stepped
      have run := receive_fault rounds arrived stepped
      rcases why with ⟨rfl, kept⟩ | ⟨lost, ⟨rfl, past⟩ | rfl⟩
      · -- the size of the answer is no `int`: no further `memcpy`
        refine ⟨fun _ => kept, fun _ => ⟨by simpa [read] using inside_of_terminated h kept, ?_, ?_⟩⟩
        · rw [run]; nofun
        · rw [run]; nofun
      · refine ⟨fun safe => ?_, fun kept => absurd kept lost⟩
        have inside : s.total + chunk.bytes.length ≤ size := safe.inside (s, chunk) (by simp [read])
        rw [h.received.total, ← length_bytes_concat] at inside
        omega
      · exact ⟨fun safe => absurd run safe.strings, fun kept => absurd kept lost⟩
    | last chunk s' arrived stepped all tracks =>
      rw [all]
      have read := reads_done rounds arrived stepped
      have kept := tracks.defined.terminated
      refine ⟨fun _ => kept, fun _ => ?_⟩
      exact safe_of_ok (by simpa [read] using inside_of_terminated h kept) (receive_done rounds arrived stepped) tracks
    | more chunk s' arrived stepped all tracks goes' =>
      rw [all]
      have read := reads_more rounds arrived stepped
      have run := receive_more rounds arrived stepped
      have later := ih tracks goes'
      constructor
      · rintro ⟨inside, strings, terminated⟩
        rw [read, List.forall_mem_cons] at inside
        rw [run] at strings terminated
        exact later.1 ⟨inside.2, strings, terminated⟩
      · intro kept
        obtain ⟨inside, strings, terminated⟩ := later.2 kept
        rw [← run] at strings terminated
        refine ⟨?_, strings, terminated⟩
        rw [read, List.forall_mem_cons]
        exact ⟨inside_of_terminated h tracks.defined.terminated, inside⟩

section Bound

variable {part before behind later : List Chunk} {chunk : Chunk}

/-- The loop reads the chunk that takes the transfer to the guard's bound, and no other behind it. -/
theorem taken_bound (goes : ∀ p, p <+: before → ended (part ++ p) = false)
    (room : (bytes (part ++ before)).length < size - 1)
    (reached : size - 1 ≤ (bytes (part ++ before)).length + chunk.bytes.length) :
    taken size part (before ++ chunk :: behind) = part ++ before ++ [chunk] := by
  have here : ended part = false := by simpa using goes [] List.nil_prefix
  induction before generalizing part with
  | nil =>
    rw [List.append_nil] at room reached ⊢
    rw [← length_bytes_concat] at reached
    rw [List.nil_append, taken_more room here, taken_full reached]
  | cons first before ih =>
    have joined (more : List Chunk) : part ++ first :: more = part ++ [first] ++ more := by simp
    rw [joined before] at room reached ⊢
    have room' : (bytes part).length < size - 1 := by
      rw [bytes_append, List.length_append, length_bytes_concat] at room
      omega
    rw [List.cons_append, taken_more room' here]
    have goes' : ∀ p, p <+: before → ended (part ++ [first] ++ p) = false := by
      intro p front
      rw [← joined]
      exact goes (first :: p) ((List.prefix_cons_inj first).2 front)
    exact ih goes' room reached (by simpa using goes' [] List.nil_prefix)

/-- A transfer that reaches the bound does so with a chunk that the loop reads. -/
theorem bound_of_taken (room : (bytes part).length < size - 1)
    (full : size - 1 ≤ (bytes (taken size part later)).length) :
    ∃ before chunk behind, later = before ++ chunk :: behind ∧
      (∀ p, p <+: before → ended (part ++ p) = false) ∧ (bytes (part ++ before)).length < size - 1 ∧
      taken size part later = part ++ before ++ [chunk] := by
  induction later generalizing part with
  | nil =>
    rw [taken] at full
    omega
  | cons chunk later ih =>
    cases last : ended part with
    | true =>
      rw [taken_ended last] at full
      omega
    | false =>
      rw [taken_more room last] at full ⊢
      by_cases more : (bytes (part ++ [chunk])).length < size - 1
      · obtain ⟨before, chunk', behind, rfl, goes, room', all⟩ := ih more full
        refine ⟨chunk :: before, chunk', behind, rfl, ?_, by simpa using room', by simpa using all⟩
        intro p front
        rcases List.prefix_cons_iff.1 front with rfl | ⟨p, rfl, front'⟩
        · rwa [List.append_nil]
        · simpa using goes p front'
      · refine ⟨[], chunk, later, rfl, ?_, by simpa using room, ?_⟩
        · intro p front
          rw [List.prefix_nil.1 front, List.append_nil]
          exact last
        · rw [taken_full (by omega), List.append_nil]

end Bound

/-- The bytes end in front of the terminator's place, or fill the buffer with a NUL among them. -/
def Lands (size : Nat) (data : List UInt8) : Prop := data.length = size - 1 ∨ data.length = size ∧ 0 ∈ data

/-- **The receive loop is safe iff the transfer lands**, in both clients and for every sequence of
results of `zsock_poll` and `recv`. The guard lets the loop read while less than `size - 1` bytes
have come; the chunk that then reaches that bound, if the answer has not ended before, has to end
there, or at the buffer's end if the transfer holds a NUL. -/
theorem receive_safe_iff (client : Client) (rounds : List Round) :
    Safe (start client.bufSize) rounds ↔
      ∀ before chunk behind, chunks rounds = before ++ chunk :: behind →
        (∀ part, part <+: before → ended part = false) →
        (bytes before).length < client.bufSize - 1 →
        client.bufSize - 1 ≤ (bytes before).length + chunk.bytes.length →
        Lands client.bufSize (bytes before ++ chunk.bytes) := by
  have pos : 0 < client.bufSize - 1 := by cases client <;> decide
  rw [safe_taken (tracks_start (by omega)) (by decide)]
  constructor
  · intro kept before chunk behind split goes room reached
    rw [split, @taken_bound _ [] before behind chunk goes room reached, List.nil_append, bytes_concat] at kept
    rw [← List.length_append] at reached
    rcases kept with less | full
    · exact .inl (by omega)
    · exact .inr full
  · intro lands
    by_cases full : client.bufSize - 1 ≤ (bytes (taken client.bufSize [] (chunks rounds))).length
    · obtain ⟨before, chunk, behind, split, goes, room, all⟩ := bound_of_taken pos full
      rw [all, List.nil_append, bytes_concat] at full ⊢
      rw [List.length_append] at full
      rcases lands before chunk behind split goes room full with exactly | filled
      · exact .inl (by omega)
      · exact .inr filled
    · exact .inl (by omega)

/-! ## A response without a blank line -/

/-- A full chunk of one letter. -/
def fullChunk : Chunk where
  bytes := List.replicate 255 97
  nonempty := List.ne_nil_of_length_pos (by rw [List.length_replicate]; decide)
  fits := by rw [List.length_replicate]

theorem length_fullChunk : fullChunk.bytes.length = 255 := List.length_replicate

def fullRound : Round := ⟨1, true, some fullChunk⟩

/-- Without a carriage return the loop finds no header and goes on. -/
theorem step_silent {s : RecvState size} {data : List UInt8} (h : Received s data) {chunk : Chunk}
    (room : data.length + chunk.bytes.length < size) (silent : 13 ∉ data ++ chunk.bytes) :
    ∃ s', step s chunk = .ok (s', false) ∧ Received s' (data ++ chunk.bytes) := by
  have kept : Terminated size (data ++ chunk.bytes) := .inl (by rwa [List.length_append])
  have noHeader : find blankLine (upToZero (data ++ chunk.bytes)).1 = none :=
    find_eq_none_of_not_mem (c := 13) (by decide) fun inside =>
      silent ((List.takeWhile_sublist _).subset inside)
  have quiet : checkLength (upToZero (data ++ chunk.bytes)) (data ++ chunk.bytes).length s.contentLength =
      .ok (s.contentLength, false) := by
    simp only [checkLength, noHeader]
    split
    · split <;> first | rfl | contradiction
    · rfl
  have pass := step_eq h kept
  rw [quiet] at pass
  obtain ⟨s', stepped, received, -⟩ := pass
  exact ⟨s', stepped, received⟩

/-- Full chunks of one letter as long as they leave room, then whatever follows. -/
theorem reads_silent (k : Nat) {s : RecvState size} {data : List UInt8} (h : Received s data)
    (silent : 13 ∉ data) (room : data.length + k * 255 < size - 1) (rounds : List Round) :
    ∃ s' : RecvState size, Received s' (data ++ List.replicate (k * 255) 97) ∧
      reads s' rounds ⊆ reads s (List.replicate k fullRound ++ rounds) := by
  induction k generalizing s data with
  | zero => exact ⟨s, by simpa using h, List.Subset.refl _⟩
  | succ k ih =>
    have length := length_fullChunk
    have silent' : 13 ∉ data ++ fullChunk.bytes := by
      rw [List.mem_append, not_or]
      exact ⟨silent, fun inside => absurd (List.eq_of_mem_replicate inside) (by decide)⟩
    obtain ⟨s', stepped, received⟩ := step_silent h (by omega) silent'
    have arrived : arrives s fullRound = some fullChunk := by
      have guard : s.total < size - 1 := by rw [h.total]; omega
      simp [arrives, guard, Round.chunk, fullRound]
    obtain ⟨s'', received', sub⟩ := ih received silent' (by rw [List.length_append]; omega)
    refine ⟨s'', ?_, ?_⟩
    · have joined : data ++ fullChunk.bytes ++ List.replicate (k * 255) 97 =
          data ++ List.replicate ((k + 1) * 255) 97 := by
        rw [List.append_assoc, show fullChunk.bytes = List.replicate 255 97 from rfl,
          List.replicate_append_replicate, Nat.succ_mul, Nat.add_comm]
      rwa [joined] at received'
    · rw [List.replicate_succ, List.cons_append, reads_more _ arrived stepped]
      exact fun r inside => List.mem_cons_of_mem _ (sub inside)

theorem not_safe_of_full {k : Nat} (room : k * 255 < size - 1) (past : size < (k + 1) * 255) :
    ¬ Safe (start size) (List.replicate (k + 1) fullRound) := by
  intro safe
  obtain ⟨s, received, sub⟩ := reads_silent k (received_start size) List.not_mem_nil
    (by simpa using room) [fullRound]
  rw [← List.replicate_succ'] at sub
  have total : s.total = k * 255 := by simp [received.total]
  have length := length_fullChunk
  have arrived : arrives s fullRound = some fullChunk := by
    simp [arrives, total, room, Round.chunk, fullRound]
  have faults : step s fullChunk = .error .overrun := by
    rw [step, store_fault received (by rw [← received.total, total, length]; omega)]
    rfl
  have bound : s.total + fullChunk.bytes.length ≤ size :=
    safe.inside (s, fullChunk) (sub (by simp [reads_fault [] arrived faults]))
  omega

/-- Thirteen and twenty-one full chunks run over the two buffers. -/
theorem full_chunks_overrun :
    ¬ Safe (start Client.info.bufSize) (List.replicate 13 fullRound) ∧
      ¬ Safe (start Client.news.bufSize) (List.replicate 21 fullRound) :=
  ⟨not_safe_of_full (k := 12) (by decide) (by decide), not_safe_of_full (k := 20) (by decide) (by decide)⟩

end SmartClock.Net
