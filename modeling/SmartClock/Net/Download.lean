import SmartClock.Net.Threads
import SmartClock.Sync.Progress

/-!
# A slow download holds nobody up

The `http_request` of the `/news` thread releases `http_mutex` before it receives, so that the
`/info` thread is not blocked during the download. In every reachable state of the three threads,
what the `/info` thread waits for is a `/news` request that is being sent, or a copy of the
screen thread. Both can go on, and the request is behind its unlock after five moves of its
thread, whichever of its calls fail and however the other threads' moves fall between.
-/

namespace SmartClock.Net

open Sync Program

/-- From behind the lock of `http_mutex` up to one of its three unlocks. -/
def NewsPc.sending : NewsPc → Bool
  | socket | connect _ | send _ | closeFailed _ => true
  | unlockNoSocket | unlockFailed | unlockSent _ => true
  | _ => false

/-- Inside of `info_mutex`. -/
def ScreenPc.copying : ScreenPc → Bool
  | copyInfo | unlockInfo => true
  | _ => false

/-- The screen thread in a state. -/
def screenPc (s : fetchers.State) : ScreenPc := s.locals .screen

theorem NewsPc.mem_held {pc : NewsPc} {m : Mutex} (holds : m ∈ pc.held) :
    (m = .http ∧ pc.sending) ∨ m = .news := by
  cases pc with
  | socket | connect _ | send _ | closeFailed _ => exact .inl ⟨List.mem_singleton.1 holds, rfl⟩
  | unlockNoSocket | unlockFailed | unlockSent _ => exact .inl ⟨List.mem_singleton.1 holds, rfl⟩
  | transfer sock pc =>
    cases pc with
    | parse | unlockData => exact .inr (List.mem_singleton.1 holds)
    | _ => cases holds
  | _ => cases holds

theorem ScreenPc.mem_held {pc : ScreenPc} {m : Mutex} (holds : m ∈ pc.held) :
    (m = .info ∧ pc.copying) ∨ m = .news := by
  cases pc with
  | copyInfo | unlockInfo => exact .inl ⟨List.mem_singleton.1 holds, rfl⟩
  | copyNews | unlockNews => exact .inr (List.mem_singleton.1 holds)
  | _ => cases holds

theorem InfoPc.instr_lock {pc : InfoPc} {m : Mutex} (locking : pc.instr = .lock m ∨ pc.instr = .timedLock m) :
    m = .http ∨ m = .info := by
  cases pc with
  | lockHttp =>
    rcases locking with locking | locking <;> cases locking
    exact .inl rfl
  | transfer sock pc =>
    cases pc with
    | lockData =>
      rcases locking with locking | locking <;> cases locking
      exact .inr rfl
    | _ => rcases locking with locking | locking <;> cases locking
  | _ => rcases locking with locking | locking <;> cases locking

theorem NewsPc.instr_ne_timedLock (pc : NewsPc) (m : Mutex) : pc.instr ≠ .timedLock m := by
  cases pc with
  | transfer sock pc => cases pc <;> nofun
  | _ => nofun

/-! ## Who holds the `/info` thread up -/

section State

variable {s : fetchers.State}

/-- The `/info` thread waits for a request that is being sent, or for a copy. -/
theorem holder_of_blocked (owned : Owned fetchersOutline s) {o : Outcome}
    (blocked : fetchers.step s (.go .info o) = none) : (newsThread s).pc.sending ∨ (screenPc s).copying := by
  obtain ⟨m, t, other, locking, owns⟩ := blocked_cases blocked
  have wanted : m = .http ∨ m = .info := @InfoPc.instr_lock (infoThread s).pc m locking
  rw [owned] at owns
  cases t with
  | info => exact absurd rfl other
  | news =>
    have holds : m ∈ (newsThread s).pc.held := List.count_pos_iff.1 owns
    rcases NewsPc.mem_held holds with ⟨-, sends⟩ | rfl
    · exact .inl sends
    · rcases wanted with same | same <;> cases same
  | screen =>
    have holds : m ∈ (screenPc s).held := List.count_pos_iff.1 owns
    rcases ScreenPc.mem_held holds with ⟨-, copies⟩ | rfl
    · exact .inr copies
    · rcases wanted with same | same <;> cases same

/-- A request that is being sent waits for no mutex. -/
theorem sending_can_go (sends : (newsThread s).pc.sending) (o : Outcome) :
    (fetchers.step s (.go .news o)).isSome := by
  apply can_go
  intro m
  show (newsThread s).pc.instr ≠ .lock m ∧ (newsThread s).pc.instr ≠ .timedLock m
  cases pc : (newsThread s).pc with
  | socket | connect _ | send _ | closeFailed _ | unlockNoSocket | unlockFailed | unlockSent _ =>
    exact ⟨nofun, nofun⟩
  | _ =>
    rw [pc] at sends
    cases sends

/-- Nor does a copy that is under way. -/
theorem screen_copying_can_go (copies : (screenPc s).copying) (o : Outcome) :
    (fetchers.step s (.go .screen o)).isSome := by
  apply can_go
  intro m
  show (screenPc s).instr ≠ .lock m ∧ (screenPc s).instr ≠ .timedLock m
  cases pc : screenPc s with
  | copyInfo | unlockInfo => exact ⟨nofun, nofun⟩
  | _ =>
    rw [pc] at copies
    cases copies

end State

/-! ## How long it does -/

/-- How many moves of its own the `/news` thread makes at most before its last one inside of
`http_mutex`. The longest way is a `send` that fails. -/
def NewsPc.left : NewsPc → Nat
  | socket => 4
  | connect _ => 3
  | send _ => 2
  | closeFailed _ => 1
  | _ => 0

theorem NewsPc.left_le (pc : NewsPc) : pc.left ≤ 4 := by cases pc <;> simp [left]

theorem NewsPc.left_next (o : Outcome) (pc : NewsPc) (sends : pc.sending) (goesOn : (pc.next o).1.sending) :
    (pc.next o).1.left < pc.left := by
  cases pc with
  | socket | connect _ | send _ => by_cases failed : o.ret < 0 <;> simp [next, left, failed]
  | closeFailed _ => exact Nat.zero_lt_one
  | unlockNoSocket | unlockFailed | unlockSent _ => cases goesOn
  | _ => cases sends

/-- And the screen thread inside of `info_mutex`. -/
def ScreenPc.left : ScreenPc → Nat
  | copyInfo => 1
  | _ => 0

theorem ScreenPc.left_next (o : Outcome) (pc : ScreenPc) (copies : pc.copying) (goesOn : (pc.next o).copying) :
    (pc.next o).left < pc.left := by
  cases pc with
  | copyInfo => exact Nat.zero_lt_one
  | unlockInfo => cases goesOn
  | _ => cases copies

theorem ScreenPc.not_copying {pc : ScreenPc} {m : Mutex} (timed : pc.instr = .timedLock m) : ¬ pc.copying := by
  cases pc with
  | lockInfo | lockNews => nofun
  | _ => cases timed

section Runs

variable {more : List (Move Locker Outcome)} {s s' : fetchers.State}

/-- A request is over after five moves of its thread, sent or failed. -/
theorem sending_ends (ran : Run.run fetchers.step s more = some s') (moved : 5 ≤ ownMoves Locker.news more) :
    ∃ now later mid, more = now ++ later ∧ Run.run fetchers.step s now = some mid ∧
      ¬ (newsThread mid).pc.sending := by
  apply @leaves_within Locker Mutex Unit Outcome _ _ fetchers .news
    (fun l : Fetcher NewsPc => l.pc.sending) (fun l : Fetcher NewsPc => l.pc.left)
  · intro l o d
    exact NewsPc.left_next o (Fetcher.pc l)
  · intro l m timed
    exact absurd timed (NewsPc.instr_ne_timedLock (Fetcher.pc l) m)
  · exact ran
  · exact Nat.lt_of_le_of_lt (NewsPc.left_le _) moved

/-- A copy is over after two. -/
theorem copying_ends (ran : Run.run fetchers.step s more = some s') (moved : 2 ≤ ownMoves Locker.screen more) :
    ∃ now later mid, more = now ++ later ∧ Run.run fetchers.step s now = some mid ∧ ¬ (screenPc mid).copying := by
  apply @leaves_within Locker Mutex Unit Outcome _ _ fetchers .screen
    (fun pc : ScreenPc => pc.copying) (fun pc : ScreenPc => pc.left)
  · intro pc o d
    exact ScreenPc.left_next o pc
  · intro pc m timed copies
    exact absurd copies (ScreenPc.not_copying timed)
  · exact ran
  · have begun : (screenPc s).left ≤ 1 := by cases screenPc s <;> simp [ScreenPc.left]
    exact Nat.lt_of_le_of_lt begun moved

end Runs

/-- **The download never blocks `/info`.** In every reachable state: if the `/info` thread has to
wait, the `/news` thread is sending its request, not receiving, parsing or sleeping, or the screen
thread is copying `g_info`. The one that is can go on, and in whatever way the run goes on, it is
behind its unlock after five moves of its own, or two. -/
theorem download_never_blocks {moves : List (Move Locker Outcome)} {s : fetchers.State}
    (ran : Run.run fetchers.step fetchersBoot moves = some s) :
    (∀ o, fetchers.step s (.go .info o) = none → (newsThread s).pc.sending ∨ (screenPc s).copying) ∧
    ((newsThread s).pc.sending → (∀ o, (fetchers.step s (.go .news o)).isSome) ∧
      ∀ more s', Run.run fetchers.step s more = some s' → 5 ≤ ownMoves Locker.news more →
        ∃ now later mid, more = now ++ later ∧ Run.run fetchers.step s now = some mid ∧
          ¬ (newsThread mid).pc.sending) ∧
    ((screenPc s).copying → (∀ o, (fetchers.step s (.go .screen o)).isSome) ∧
      ∀ more s', Run.run fetchers.step s more = some s' → 2 ≤ ownMoves Locker.screen more →
        ∃ now later mid, more = now ++ later ∧ Run.run fetchers.step s now = some mid ∧
          ¬ (screenPc mid).copying) := by
  refine ⟨fun o => holder_of_blocked (owned_of_run ran), ?_, ?_⟩
  · intro sends
    exact ⟨sending_can_go sends, fun more s' => sending_ends⟩
  · intro copies
    exact ⟨screen_copying_can_go copies, fun more s' => copying_ends⟩

/-- The `/news` thread has opened a socket. -/
def newsFirst : List (Move Locker Outcome) := List.replicate 3 (.go .news ⟨0, true⟩)

/-- There the `/info` thread has to wait. -/
theorem download_never_blocks_newsFirst :
    ∃ s, Run.run fetchers.step fetchersBoot newsFirst = some s ∧
      fetchers.step s (.go .info ⟨0, true⟩) = none ∧ ((newsThread s).pc.sending ∨ (screenPc s).copying) :=
  ⟨_, rfl, rfl, (@download_never_blocks newsFirst _ rfl).1 ⟨0, true⟩ rfl⟩

end SmartClock.Net
