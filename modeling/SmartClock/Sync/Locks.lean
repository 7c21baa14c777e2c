import SmartClock.Run.Partial
import Mathlib.Data.Set.Finite.Lemmas

/-!
# Threads and mutexes

Threads take steps in any order. What a thread's next step does to the mutexes is its
instruction (`Instr`): a mutex may be locked again by its owner, blocks the others, and is
free after as many unlocks. What the step does otherwise is the program's own `next`, which
gets an outcome from outside and the shared data.

A program's proof outline says which mutexes a thread holds at each of its local states
(`Outline`), checked step by step. From it: in every reachable state the mutexes are held as
the outline says (`Owned`), so no two threads are at states that hold the same mutex
(`Owned.exclusive`); and if every lock that waits forever is taken in a fixed order, no set
of threads waits for each other (`Owned.no_deadlock`).
-/

namespace SmartClock.Sync

/-- A locked mutex: its owner, and how often the owner has locked it again. -/
structure Held (T : Type) where
  owner : T
  again : Nat

/-- What a step does to the mutexes. -/
inductive Instr (M : Type) where
  | lock (m : M)
  | timedLock (m : M)
  | unlock (m : M)
  | work

section Mutexes

variable {T M : Type} [DecidableEq T]

/-- How often `t` has locked a mutex. -/
def lockCount (t : T) : Option (Held T) → Nat
  | none => 0
  | some held => if held.owner = t then held.again + 1 else 0

/-- `t` locks a mutex: `none` while another thread owns it. -/
def lockBy (t : T) : Option (Held T) → Option (Held T)
  | none => some ⟨t, 0⟩
  | some held => if held.owner = t then some ⟨t, held.again + 1⟩ else none

/-- `t` unlocks a mutex. Without an effect if `t` does not own it. -/
def unlockBy (t : T) : Option (Held T) → Option (Held T)
  | none => none
  | some held =>
    if held.owner = t then (if held.again = 0 then none else some ⟨t, held.again - 1⟩) else some held

theorem lockCount_pos {t : T} {mutex : Option (Held T)} (h : 0 < lockCount t mutex) :
    ∃ again, mutex = some ⟨t, again⟩ := by
  cases mutex with
  | none => cases h
  | some held =>
    by_cases owner : held.owner = t
    · exact ⟨held.again, by rw [← owner]⟩
    · rw [lockCount, if_neg owner] at h
      cases h

theorem lockCount_lockBy {t : T} {mutex : Option (Held T)} {held : Held T}
    (locked : lockBy t mutex = some held) (t' : T) :
    lockCount t' (some held) = lockCount t' mutex + if t' = t then 1 else 0 := by
  cases mutex with
  | none =>
    obtain rfl := Option.some.inj locked
    by_cases same : t' = t
    · simp [lockCount, same]
    · simp [lockCount, same, Ne.symm same]
  | some old =>
    by_cases owner : old.owner = t
    · rw [lockBy, if_pos owner] at locked
      obtain rfl := Option.some.inj locked
      by_cases same : t' = t
      · simp [lockCount, same, owner]
      · simp [lockCount, same, Ne.symm same, owner]
    · rw [lockBy, if_neg owner] at locked
      cases locked

theorem lockCount_unlockBy {t : T} {mutex : Option (Held T)} (owns : 0 < lockCount t mutex) (t' : T) :
    lockCount t' (unlockBy t mutex) + (if t' = t then 1 else 0) = lockCount t' mutex := by
  obtain ⟨again, rfl⟩ := lockCount_pos owns
  rw [unlockBy, if_pos rfl]
  by_cases same : t' = t
  · by_cases last : again = 0
    · simp [lockCount, same, last]
    · simp [lockCount, same, last]
      omega
  · by_cases last : again = 0
    · simp [lockCount, same, Ne.symm same, last]
    · simp [lockCount, same, Ne.symm same, last]

variable [DecidableEq M]

namespace Instr

/-- The mutexes after an instruction of `t`; `none` if it has to wait. -/
def run (t : T) (mutexes : M → Option (Held T)) : Instr M → Option (M → Option (Held T))
  | work => some mutexes
  | unlock m => some (Function.update mutexes m (unlockBy t (mutexes m)))
  | lock m => (lockBy t (mutexes m)).map fun held => Function.update mutexes m (some held)
  | timedLock m => (lockBy t (mutexes m)).map fun held => Function.update mutexes m (some held)

/-- How often an instruction locks a mutex. -/
def locks (m : M) : Instr M → Nat
  | lock m' => if m = m' then 1 else 0
  | timedLock m' => if m = m' then 1 else 0
  | _ => 0

/-- How often it unlocks it. -/
def unlocks (m : M) : Instr M → Nat
  | unlock m' => if m = m' then 1 else 0
  | _ => 0

theorem lockCount_update {t : T} {mutexes : M → Option (Held T)} {m' : M} {held : Held T}
    (locked : lockBy t (mutexes m') = some held) (t' : T) (m : M) :
    lockCount t' (Function.update mutexes m' (some held) m) =
      lockCount t' (mutexes m) + if t' = t then (if m = m' then 1 else 0) else 0 := by
  by_cases same : m = m'
  · subst same
    rw [Function.update_self, lockCount_lockBy locked]
    simp
  · rw [Function.update_of_ne same]
    simp [same]

/-- **What an instruction changes** are the counts of its thread, by what it locks and
unlocks. -/
theorem lockCount_run {t : T} {mutexes mutexes' : M → Option (Held T)} {i : Instr M}
    (ran : i.run t mutexes = some mutexes') (owns : ∀ m, i.unlocks m ≤ lockCount t (mutexes m))
    (t' : T) (m : M) :
    lockCount t' (mutexes' m) + (if t' = t then i.unlocks m else 0) =
      lockCount t' (mutexes m) + if t' = t then i.locks m else 0 := by
  cases i with
  | work =>
    obtain rfl := Option.some.inj ran
    rfl
  | lock m' =>
    obtain ⟨held, locked, rfl⟩ := Option.map_eq_some_iff.1 ran
    rw [lockCount_update locked]
    simp [unlocks, locks]
  | timedLock m' =>
    obtain ⟨held, locked, rfl⟩ := Option.map_eq_some_iff.1 ran
    rw [lockCount_update locked]
    simp [unlocks, locks]
  | unlock m' =>
    obtain rfl := Option.some.inj ran
    by_cases same : m = m'
    · subst same
      have pos : 1 ≤ lockCount t (mutexes m) := by simpa [unlocks] using owns m
      have freed := lockCount_unlockBy pos t'
      rw [Function.update_self]
      simpa [unlocks, locks] using freed
    · rw [Function.update_of_ne same]
      simp [unlocks, locks, same]

end Instr

end Mutexes

/-! ## Programs -/

/-- A program of threads `T` with mutexes `M`, shared data `D` and outcomes `O` from outside. -/
structure Program (T M D O : Type) where
  Local : T → Type
  instr : (t : T) → Local t → Instr M
  next : (t : T) → Local t → O → D → Local t × D
  /-- A timed lock that gives up. -/
  giveUp : (t : T) → Local t → Local t

namespace Program

variable {T M D O : Type} [DecidableEq T] [DecidableEq M] (P : Program T M D O)

structure State where
  locals : (t : T) → P.Local t
  mutexes : M → Option (Held T)
  data : D

/-- A thread goes on with an outcome, or its timed lock times out. -/
inductive Move (T O : Type) where
  | go (t : T) (o : O)
  | timeout (t : T)

/-- One step: `none` if the thread has to wait, or has nothing to time out. -/
def step (s : P.State) : Move T O → Option P.State
  | .go t o => ((P.instr t (s.locals t)).run t s.mutexes).map fun mutexes =>
      { locals := Function.update s.locals t (P.next t (s.locals t) o s.data).1
        mutexes := mutexes
        data := (P.next t (s.locals t) o s.data).2 }
  | .timeout t =>
    match P.instr t (s.locals t) with
    | .timedLock m =>
      if (lockBy t (s.mutexes m)).isNone then
        some { s with locals := Function.update s.locals t (P.giveUp t (s.locals t)) }
      else none
    | _ => none

variable {P}

/-- All that a step can do. -/
theorem step_cases {s s' : P.State} {move : Move T O} (taken : P.step s move = some s') :
    (∃ t o mutexes, (P.instr t (s.locals t)).run t s.mutexes = some mutexes ∧
      s' = { locals := Function.update s.locals t (P.next t (s.locals t) o s.data).1
             mutexes := mutexes
             data := (P.next t (s.locals t) o s.data).2 }) ∨
    (∃ t m, P.instr t (s.locals t) = .timedLock m ∧
      s' = { s with locals := Function.update s.locals t (P.giveUp t (s.locals t)) }) := by
  cases move with
  | go t o =>
    obtain ⟨mutexes, ran, rfl⟩ := Option.map_eq_some_iff.1 taken
    exact .inl ⟨t, o, mutexes, ran, rfl⟩
  | timeout t =>
    unfold step at taken
    dsimp only at taken
    split at taken
    · rename_i m timed
      split at taken
      · obtain rfl := Option.some.inj taken
        exact .inr ⟨t, m, timed, rfl⟩
      · cases taken
    · cases taken

/-- What every thread keeps in its local state. -/
theorem local_invariant {Q : (t : T) → P.Local t → Prop}
    (go : ∀ t l o d, Q t l → Q t (P.next t l o d).1) (giveUp : ∀ t l, Q t l → Q t (P.giveUp t l))
    (s : P.State) (move : Move T O) (s' : P.State) (h : ∀ t, Q t (s.locals t))
    (taken : P.step s move = some s') : ∀ t, Q t (s'.locals t) := by
  intro t'
  rcases step_cases taken with ⟨t, o, mutexes, -, rfl⟩ | ⟨t, m, -, rfl⟩
  · by_cases same : t' = t
    · subst same
      dsimp only
      rw [Function.update_self]
      exact go t' _ _ _ (h t')
    · dsimp only
      rw [Function.update_of_ne same]
      exact h t'
  · by_cases same : t' = t
    · subst same
      dsimp only
      rw [Function.update_self]
      exact giveUp t' _ (h t')
    · dsimp only
      rw [Function.update_of_ne same]
      exact h t'

/-! ## Proof outlines -/

variable (P) in
/-- How often a thread in a local state has locked each mutex, and no step contradicts it. -/
structure Outline where
  holds : (t : T) → P.Local t → M → Nat
  go : ∀ t l o d m, holds t (P.next t l o d).1 m + (P.instr t l).unlocks m =
    holds t l m + (P.instr t l).locks m
  giveUp : ∀ t l m', P.instr t l = .timedLock m' → ∀ m, holds t (P.giveUp t l) m = holds t l m

/-- The mutexes are held as the outline says. -/
def Owned (A : P.Outline) (s : P.State) : Prop :=
  ∀ t m, lockCount t (s.mutexes m) = A.holds t (s.locals t) m

variable {A : P.Outline} {s : P.State}

theorem owned_step (s : P.State) (move : Move T O) (s' : P.State) (h : Owned A s)
    (taken : P.step s move = some s') : Owned A s' := by
  intro t' m
  rcases step_cases taken with ⟨t, o, mutexes, ran, rfl⟩ | ⟨t, m', timed, rfl⟩
  · have balance := A.go t (s.locals t) o s.data
    have owns : ∀ m, (P.instr t (s.locals t)).unlocks m ≤ lockCount t (s.mutexes m) := by
      intro m
      rw [h t m]
      have := balance m
      cases instr : P.instr t (s.locals t) with
      | unlock m' =>
        rw [instr] at this
        simp only [Instr.locks] at this
        omega
      | work | lock _ | timedLock _ => exact Nat.zero_le _
    have counted := Instr.lockCount_run ran owns t' m
    rw [h t' m] at counted
    dsimp only
    by_cases same : t' = t
    · subst same
      rw [Function.update_self]
      rw [if_pos rfl, if_pos rfl] at counted
      have := balance m
      omega
    · rw [Function.update_of_ne same]
      rwa [if_neg same, if_neg same] at counted
  · dsimp only
    by_cases same : t' = t
    · subst same
      rw [Function.update_self, A.giveUp t' _ m' timed]
      exact h t' m
    · rw [Function.update_of_ne same]
      exact h t' m

/-- **Mutual exclusion**: only one thread is where the outline holds a mutex. -/
theorem Owned.exclusive (h : Owned A s) {t t' : T} {m : M} (here : 0 < A.holds t (s.locals t) m)
    (there : 0 < A.holds t' (s.locals t') m) : t = t' := by
  rw [← h t m] at here
  rw [← h t' m] at there
  obtain ⟨again, owned⟩ := lockCount_pos here
  obtain ⟨again', owned'⟩ := lockCount_pos there
  rw [owned] at owned'
  exact congrArg Held.owner (Option.some.inj owned')

/-- `t` waits, without a time limit, for a mutex that `t'` owns. -/
def WaitsFor (s : P.State) (t t' : T) : Prop :=
  ∃ m, P.instr t (s.locals t) = .lock m ∧ t ≠ t' ∧ 0 < lockCount t' (s.mutexes m)

/-- Each of these threads waits for another one of them. -/
def Deadlocked (s : P.State) (S : Set T) : Prop := S.Nonempty ∧ ∀ t ∈ S, ∃ t' ∈ S, WaitsFor s t t'

/-- **No deadlock**: if a thread waits only for mutexes that rank above all it holds, no
threads wait for each other. The one that waits for the highest mutex of all would wait for
one that waits for a higher mutex still. -/
theorem Owned.no_deadlock [Finite T] (h : Owned A s) {rank : M → Nat}
    (ordered : ∀ t l m, P.instr t l = .lock m → ∀ m', 0 < A.holds t l m' → rank m' < rank m)
    (S : Set T) : ¬ Deadlocked s S := by
  rintro ⟨nonempty, waits⟩
  let level (t : T) : Nat := match P.instr t (s.locals t) with
    | .lock m => rank m
    | _ => 0
  obtain ⟨t, inside, highest⟩ := Set.exists_max_image S level S.toFinite nonempty
  obtain ⟨t', inside', m, locking, -, owned⟩ := waits t inside
  obtain ⟨-, -, m', locking', -, -⟩ := waits t' inside'
  have higher : rank m < rank m' := ordered t' _ m' locking' m (h t' m ▸ owned)
  have here : level t = rank m := by simp only [level, locking]
  have there : level t' = rank m' := by simp only [level, locking']
  have := highest t' inside'
  omega

end Program

end SmartClock.Sync
