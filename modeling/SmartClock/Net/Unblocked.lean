import SmartClock.Net.Snapshot
import SmartClock.Sync.Progress

/-!
# The screen thread is never held up

`get_info_snapshot` waits for `info_mutex` with a time limit, so that a stuck network thread
cannot freeze the display. From every reachable state the screen thread can move, and every
eleven moves of its own complete a call, even if the network thread stays inside of
`parse_info` for good; `parse_info` in turn waits only for a screen thread that can go on.
-/

namespace SmartClock.Net

open Text Sync Program

/-- How many moves of its own a call has left at most. -/
def SnapshotPc.left : SnapshotPc → Nat
  | idle => 11
  | lock => 10
  | copy rest => rest.length + 2
  | unlock => 1

theorem Screen.calls_give (l : Screen) (result : Bool) :
    (l.give result).calls.length = l.calls.length + 1 := by
  rw [give, List.length_append]
  rfl

theorem Screen.left_next (l : Screen) (out g : InfoData) :
    (l.next out g).pc.left + 1 + 11 * l.calls.length ≤
      l.pc.left + 11 * (l.next out g).calls.length := by
  obtain ⟨pc, out', before, calls⟩ := l
  cases pc with
  | idle => exact Nat.le_refl _
  | lock => exact Nat.le_refl _
  | copy rest => cases rest <;> exact Nat.le_refl _
  | unlock =>
    have more : (next ⟨.unlock, out', before, calls⟩ out g).calls.length = calls.length + 1 :=
      calls_give _ true
    rw [more]
    show 11 + 1 + 11 * calls.length ≤ 1 + 11 * (calls.length + 1)
    omega

theorem Screen.left_giveUp (l : Screen) (waiting : l.pc = .lock) :
    (l.give false).pc.left + 1 + 11 * l.calls.length ≤
      l.pc.left + 11 * (l.give false).calls.length := by
  rw [waiting, calls_give]
  show 11 + 1 + 11 * l.calls.length ≤ 10 + 11 * (l.calls.length + 1)
  omega

theorem SnapshotPc.lock_of_timedLock {pc : SnapshotPc} {m : Mutex} (timed : pc.instr = .timedLock m) :
    pc = .lock := by
  cases pc with
  | lock => rfl
  | idle | copy rest | unlock => cases timed

/-- A call has no more than its eleven moves left. -/
def WithinCall : (t : InfoUser) → userLocal t → Prop
  | .network, _ => True
  | .screen, (l : Screen) => l.pc.left ≤ 11

theorem Screen.within_next (l : Screen) (out g : InfoData) (within : l.pc.left ≤ 11) :
    (l.next out g).pc.left ≤ 11 := by
  obtain ⟨pc, out', before, calls⟩ := l
  cases pc with
  | idle => exact Nat.le_succ 10
  | lock => exact Nat.le_add_right 9 2
  | copy rest =>
    cases rest with
    | nil => exact Nat.le_add_right 1 10
    | cons f rest => exact Nat.le_trans (Nat.le_succ _) within
  | unlock => exact Nat.le_refl 11

theorem withinCall_of_run {moves : List (Move InfoUser Given)} {s : sharing.State}
    (ran : Run.run sharing.step sharingBoot moves = some s) : ∀ t, WithinCall t (s.locals t) := by
  have boot : ∀ t, WithinCall t (sharingBoot.locals t) := by
    intro t
    cases t with
    | network => trivial
    | screen => exact Nat.le_refl _
  have go : ∀ t l (o : Given) d, WithinCall t l → WithinCall t (sharing.next t l o d).1 := by
    intro t l o d within
    cases t with
    | network => trivial
    | screen => exact Screen.within_next l o.out d within
  have giveUp : ∀ t l, WithinCall t l → WithinCall t (sharing.giveUp t l) := by
    intro t l _
    cases t with
    | network => trivial
    | screen => exact Nat.le_refl 11
  exact Run.run_invariant (local_invariant go giveUp) boot ran

theorem sharing_owned {moves : List (Move InfoUser Given)} {s : sharing.State}
    (ran : Run.run sharing.step sharingBoot moves = some s) : Owned sharingOutline s := by
  have boot : Owned sharingOutline sharingBoot := by
    intro t m
    cases t <;> rfl
  exact Run.run_invariant owned_step boot ran

/-- The network thread's move waits only for a copy of the screen thread's that is under way. -/
theorem screen_copies_of_blocked {s : sharing.State} (owned : Owned sharingOutline s) {given : Given}
    (blocked : sharing.step s (.go .network given) = none) : (screenThread s).pc.held = [.info] := by
  obtain ⟨m, t, other, -, owns⟩ := blocked_cases blocked
  cases t with
  | network => exact absurd rfl other
  | screen =>
    rw [owned] at owns
    have owns : 0 < (screenThread s).pc.held.count m := owns
    rcases SnapshotPc.held_cases (screenThread s).pc with outside | copying
    · rw [outside] at owns
      cases owns
    · exact copying

/-- Inside of the lock the screen thread waits for nothing. -/
theorem copying_can_go {s : sharing.State} (copying : (screenThread s).pc.held = [.info])
    (given : Given) : (sharing.step s (.go .screen given)).isSome := by
  apply can_go
  intro m
  show (screenThread s).pc.instr ≠ .lock m ∧ (screenThread s).pc.instr ≠ .timedLock m
  cases pc : (screenThread s).pc with
  | idle | lock =>
    rw [pc] at copying
    cases copying
  | copy rest | unlock => exact ⟨nofun, nofun⟩

/-- **A stuck network thread cannot freeze the display.** In every reachable state of the two
threads the screen thread can go on, or give up its wait for `info_mutex`. In whatever way the
run goes on, eleven more moves of its own complete a call of `get_info_snapshot`. And where
`parse_info` has to wait, the screen thread is copying, inside of its lock, and can go on. -/
theorem screen_never_blocked {moves : List (Move InfoUser Given)} {s : sharing.State}
    (ran : Run.run sharing.step sharingBoot moves = some s) :
    (∀ given, (sharing.step s (.go .screen given)).isSome ∨
      (sharing.step s (.timeout .screen)).isSome) ∧
    (∀ more s', Run.run sharing.step s more = some s' → 11 ≤ ownMoves InfoUser.screen more →
      (screenThread s).calls.length < (screenThread s').calls.length) ∧
    ∀ given, sharing.step s (.go .network given) = none → (screenThread s).pc.held = [.info] ∧
      ∀ given', (sharing.step s (.go .screen given')).isSome := by
  refine ⟨?_, ?_, ?_⟩
  · intro given
    apply can_move
    intro m waits
    have waits : (screenThread s).pc.instr = .lock m := waits
    cases pc : (screenThread s).pc with
    | idle | lock | copy rest | unlock =>
      rw [pc] at waits
      cases waits
  · intro more s' ran' moved
    have begun : (screenThread s).pc.left ≤ 11 := withinCall_of_run ran .screen
    have paid : (screenThread s').pc.left + ownMoves InfoUser.screen more +
        11 * (screenThread s).calls.length ≤
          (screenThread s).pc.left + 11 * (screenThread s').calls.length := by
      apply @moves_paid InfoUser Mutex InfoData Given _ _ sharing .screen
        (fun l : Screen => l.pc.left) (fun l : Screen => l.calls.length) 11
      · intro l o d
        exact Screen.left_next l o.out d
      · intro l m timed
        exact Screen.left_giveUp l (SnapshotPc.lock_of_timedLock timed)
      · exact ran'
    have some_left : 1 ≤ (screenThread s').pc.left := by
      cases (screenThread s').pc with
      | idle | lock | copy rest | unlock => simp [SnapshotPc.left]
    omega
  · intro given blocked
    have copying := screen_copies_of_blocked (sharing_owned ran) blocked
    exact ⟨copying, copying_can_go copying⟩

/-- The network thread stops behind the third byte of the city and keeps the lock. -/
def stuckInCity : List (Move InfoUser Given) := List.replicate 6 (.go .network cityAndOld)

theorem screen_never_blocked_stuck :
    ∃ s, Run.run sharing.step sharingBoot stuckInCity = some s ∧
      (networkThread s).pc.held = [.info] ∧
      (∀ given, (sharing.step s (.go .screen given)).isSome ∨
        (sharing.step s (.timeout .screen)).isSome) ∧
      (∀ more s', Run.run sharing.step s more = some s' → 11 ≤ ownMoves InfoUser.screen more →
        (screenThread s).calls.length < (screenThread s').calls.length) ∧
      ∀ given, sharing.step s (.go .network given) = none → (screenThread s).pc.held = [.info] ∧
        ∀ given', (sharing.step s (.go .screen given')).isSome :=
  ⟨_, rfl, rfl, @screen_never_blocked stuckInCity _ rfl⟩

end SmartClock.Net
