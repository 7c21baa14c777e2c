import SmartClock.Sync.Locks

/-!
# Threads that no other thread holds up

A thread can move if its next lock has a time limit: it goes on, or the lock gives up
(`can_move`). What it waits for otherwise is a mutex of another thread (`blocked_cases`). If
each of its moves is paid for, by what is left of its call or by a call that it completes,
then it completes calls at a steady rate, however the moves of the others fall between
(`moves_paid`); and a phase whose moves lower what is left of it is over after so many of them
(`leaves_within`).
-/

namespace SmartClock.Sync.Program

variable {T M D O : Type} [DecidableEq T] [DecidableEq M] {P : Program T M D O}

/-- Whose move it is. -/
def Move.thread : Move T O → T
  | go t _ => t
  | timeout t => t

/-- How many of the moves are the thread's own. -/
def ownMoves (t : T) (moves : List (Move T O)) : Nat := moves.countP fun move => move.thread = t

theorem ownMoves_cons (t : T) (move : Move T O) (moves : List (Move T O)) :
    ownMoves t (move :: moves) = ownMoves t moves + if move.thread = t then 1 else 0 := by
  simp [ownMoves, List.countP_cons]

theorem blocked_cases {s : P.State} {t : T} {o : O} (blocked : P.step s (.go t o) = none) :
    ∃ m t', t' ≠ t ∧ (P.instr t (s.locals t) = .lock m ∨ P.instr t (s.locals t) = .timedLock m) ∧
      0 < lockCount t' (s.mutexes m) := by
  have waits : (P.instr t (s.locals t)).run t s.mutexes = none := by
    simpa only [step, Option.map_eq_none_iff] using blocked
  have owned : ∀ m, lockBy t (s.mutexes m) = none →
      ∃ t', t' ≠ t ∧ 0 < lockCount t' (s.mutexes m) := by
    intro m taken
    cases mutex : s.mutexes m with
    | none =>
      rw [mutex] at taken
      cases taken
    | some held =>
      rw [mutex] at taken
      refine ⟨held.owner, ?_, ?_⟩
      · intro own
        rw [lockBy, if_pos own] at taken
        cases taken
      · rw [lockCount, if_pos rfl]
        exact Nat.succ_pos _
  cases instr : P.instr t (s.locals t) with
  | work =>
    rw [instr] at waits
    cases waits
  | unlock m =>
    rw [instr] at waits
    cases waits
  | lock m =>
    rw [instr, Instr.run, Option.map_eq_none_iff] at waits
    obtain ⟨t', other, owns⟩ := owned m waits
    exact ⟨m, t', other, .inl rfl, owns⟩
  | timedLock m =>
    rw [instr, Instr.run, Option.map_eq_none_iff] at waits
    obtain ⟨t', other, owns⟩ := owned m waits
    exact ⟨m, t', other, .inr rfl, owns⟩

/-- Without a lock, a thread goes on. -/
theorem can_go {s : P.State} {t : T}
    (free : ∀ m, P.instr t (s.locals t) ≠ .lock m ∧ P.instr t (s.locals t) ≠ .timedLock m) (o : O) :
    (P.step s (.go t o)).isSome := by
  apply Option.isSome_iff_ne_none.2
  intro blocked
  obtain ⟨m, t', -, locking, -⟩ := blocked_cases blocked
  exact locking.elim (free m).1 (free m).2

/-- Without a lock that waits forever, a thread goes on or gives up. -/
theorem can_move {s : P.State} {t : T} (limited : ∀ m, P.instr t (s.locals t) ≠ .lock m) (o : O) :
    (P.step s (.go t o)).isSome ∨ (P.step s (.timeout t)).isSome := by
  cases instr : P.instr t (s.locals t) with
  | work =>
    left
    simp [step, instr, Instr.run]
  | unlock m =>
    left
    simp [step, instr, Instr.run]
  | lock m => exact absurd instr (limited m)
  | timedLock m =>
    cases locked : lockBy t (s.mutexes m) with
    | none =>
      right
      simp [step, instr, locked]
    | some held =>
      left
      simp [step, instr, Instr.run, locked]

theorem timeout_cases {s s' : P.State} {t : T} (taken : P.step s (.timeout t) = some s') :
    ∃ m, P.instr t (s.locals t) = .timedLock m ∧
      s' = { s with locals := Function.update s.locals t (P.giveUp t (s.locals t)) } := by
  unfold step at taken
  dsimp only at taken
  split at taken
  · rename_i m timed
    split at taken
    · obtain rfl := Option.some.inj taken
      exact ⟨m, timed, rfl⟩
    · cases taken
  · cases taken

theorem step_other {s s' : P.State} {move : Move T O} (taken : P.step s move = some s') {t : T}
    (other : move.thread ≠ t) : s'.locals t = s.locals t := by
  cases move with
  | go t' o =>
    obtain ⟨mutexes, -, rfl⟩ := Option.map_eq_some_iff.1 taken
    exact Function.update_of_ne (Ne.symm other) _ _
  | timeout t' =>
    obtain ⟨m, -, rfl⟩ := timeout_cases taken
    exact Function.update_of_ne (Ne.symm other) _ _

theorem step_own {s s' : P.State} {move : Move T O} (taken : P.step s move = some s') :
    (∃ o, s'.locals move.thread = (P.next move.thread (s.locals move.thread) o s.data).1) ∨
      ∃ m, P.instr move.thread (s.locals move.thread) = .timedLock m ∧
        s'.locals move.thread = P.giveUp move.thread (s.locals move.thread) := by
  cases move with
  | go t o =>
    obtain ⟨mutexes, -, rfl⟩ := Option.map_eq_some_iff.1 taken
    exact .inl ⟨o, Function.update_self _ _ _⟩
  | timeout t =>
    obtain ⟨m, timed, rfl⟩ := timeout_cases taken
    exact .inr ⟨m, timed, Function.update_self _ _ _⟩

section Pace

variable {t : T} {left calls : P.Local t → Nat} {cost : Nat}

/-- **Every move is paid for**: if a move of the thread lowers what is left, and may raise it
again by `cost` with each call it completes, so it is for its moves in a run. -/
theorem moves_paid
    (go : ∀ l o d, left (P.next t l o d).1 + 1 + cost * calls l ≤
      left l + cost * calls (P.next t l o d).1)
    (giveUp : ∀ l m, P.instr t l = .timedLock m →
      left (P.giveUp t l) + 1 + cost * calls l ≤ left l + cost * calls (P.giveUp t l)) :
    ∀ {moves : List (Move T O)} {s s' : P.State}, Run.run P.step s moves = some s' →
      left (s'.locals t) + ownMoves t moves + cost * calls (s.locals t) ≤
        left (s.locals t) + cost * calls (s'.locals t)
  | [], s, s', ran => by
    obtain rfl : s = s' := by simpa using ran
    exact Nat.le_refl _
  | move :: moves, s, s', ran => by
    obtain ⟨mid, taken, ran⟩ := Run.run_cons.1 ran
    have later := moves_paid go giveUp ran
    rw [ownMoves_cons]
    by_cases own : move.thread = t
    · subst own
      rw [if_pos rfl]
      rcases step_own taken with ⟨o, went⟩ | ⟨m, timed, gave⟩
      · have first := go (s.locals move.thread) o s.data
        rw [← went] at first
        omega
      · have first := giveUp (s.locals move.thread) m timed
        rw [← gave] at first
        omega
    · rw [if_neg own]
      rw [step_other taken own] at later
      omega

end Pace

/-- **A phase ends within a thread's own moves**: if each of its moves inside of the phase lowers
what is left of it, then a run with more moves of its own than that leaves the phase. -/
theorem leaves_within {t : T} {phase : P.Local t → Prop} {left : P.Local t → Nat}
    (go : ∀ l o d, phase l → phase (P.next t l o d).1 → left (P.next t l o d).1 < left l)
    (giveUp : ∀ l m, P.instr t l = .timedLock m → phase l → phase (P.giveUp t l) →
      left (P.giveUp t l) < left l) :
    ∀ {moves : List (Move T O)} {s s' : P.State}, Run.run P.step s moves = some s' →
      left (s.locals t) < ownMoves t moves →
      ∃ now later mid, moves = now ++ later ∧ Run.run P.step s now = some mid ∧ ¬ phase (mid.locals t)
  | [], s, s', _, few => absurd few (Nat.not_lt_zero _)
  | move :: moves, s, s', ran, few => by
    obtain ⟨next, taken, ran⟩ := Run.run_cons.1 ran
    rw [ownMoves_cons] at few
    by_cases inside : phase (s.locals t) ∧ phase (next.locals t)
    · have fewer : left (next.locals t) < ownMoves t moves := by
        by_cases own : move.thread = t
        · subst own
          rw [if_pos rfl] at few
          rcases step_own taken with ⟨o, went⟩ | ⟨m, timed, gave⟩
          · rw [went] at inside ⊢
            have lower := go _ o s.data inside.1 inside.2
            omega
          · rw [gave] at inside ⊢
            have lower := giveUp _ m timed inside.1 inside.2
            omega
        · rw [step_other taken own]
          rwa [if_neg own] at few
      obtain ⟨now, later, mid, split, ran, outside⟩ := leaves_within go giveUp ran fewer
      exact ⟨move :: now, later, mid, by rw [split, List.cons_append],
        Run.run_cons.2 ⟨next, taken, ran⟩, outside⟩
    · by_cases here : phase (s.locals t)
      · exact ⟨[move], moves, next, rfl, Run.run_cons.2 ⟨next, taken, rfl⟩,
          fun there => inside ⟨here, there⟩⟩
      · exact ⟨[], move :: moves, s, rfl, rfl, here⟩

end SmartClock.Sync.Program
