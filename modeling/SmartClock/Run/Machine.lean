import Mathlib.Data.List.Basic

/-!
# Runs of an input-driven machine

A machine is a step function `step : ι → σ → σ` and a start state. `stateAt` is the
state after a number of rounds of an endless input sequence, `after` the state after a
finite list of inputs. Three rules carry the developments built on it: an invariant of the
step is an invariant of every run (`stateAt_invariant`, `after_invariant`), a cell holds the
last value written to it (`after_last_write`), and a property that holds now was either
started now or held one round earlier, so it has a last start (`since_of_step`).
-/

namespace SmartClock.Run

section Runs

variable {σ ι : Type} (step : ι → σ → σ) (start : σ)

/-- The state after `n` rounds. Rounds are counted from 1: round `n` reads `input n`. -/
def stateAt (input : Nat → ι) : Nat → σ
  | 0 => start
  | n + 1 => step (input (n + 1)) (stateAt input n)

/-- The state after a finite list of inputs. -/
def after (inputs : List ι) : σ :=
  inputs.foldl (fun s i => step i s) start

variable {step start}

@[simp] theorem stateAt_zero (input : Nat → ι) : stateAt step start input 0 = start := rfl

/-- What every step keeps holds in every state of an endless run. -/
theorem stateAt_invariant {P : σ → Prop} (base : P start) (keep : ∀ i s, P s → P (step i s))
    (input : Nat → ι) (n : Nat) : P (stateAt step start input n) := by
  induction n with
  | zero => exact base
  | succ n ih => exact keep _ _ ih

/-- What every step keeps holds after every finite list of inputs. -/
theorem after_invariant {P : σ → Prop} (base : P start) (keep : ∀ i s, P s → P (step i s))
    (inputs : List ι) : P (after step start inputs) := by
  induction inputs generalizing start with
  | nil => exact base
  | cons i rest ih => exact ih (keep i start base)

theorem after_append (inputs inputs' : List ι) :
    after step start (inputs ++ inputs') = after step (after step start inputs) inputs' :=
  List.foldl_append

/-- **The last write.** If a step writes a cell or leaves it alone, as its input says, then
after a run the cell holds the last value written, or what it held before. -/
theorem after_last_write {α : Type} {cell : σ → α} {written : ι → Option α}
    (writes : ∀ i s, cell (step i s) = (written i).getD (cell s)) (inputs : List ι) :
    cell (after step start inputs) = (inputs.filterMap written).getLast?.getD (cell start) := by
  induction inputs generalizing start with
  | nil => rfl
  | cons i rest ih =>
    have first : after step start (i :: rest) = after step (step i start) rest := rfl
    rw [first, ih, writes]
    cases wrote : written i with
    | none => rw [List.filterMap_cons_none wrote, Option.getD_none]
    | some v =>
      rw [List.filterMap_cons_some wrote, List.getLast?_cons]
      rfl

end Runs

/-- **The last start.** If a property can only hold because it starts in this round, or
because it held one round earlier and this round keeps it, then whenever it holds it has
been kept since a start. -/
theorem since_of_step {holds starts keeps : Nat → Prop} (base : ¬ holds 0)
    (step : ∀ n, holds (n + 1) → starts (n + 1) ∨ (holds n ∧ keeps (n + 1))) :
    ∀ j, holds j → ∃ k, 1 ≤ k ∧ k ≤ j ∧ starts k ∧ (∀ i, k ≤ i → i ≤ j → holds i) ∧
      ∀ i, k < i → i ≤ j → keeps i := by
  intro j
  induction j with
  | zero => intro now; exact absurd now base
  | succ j ih =>
    intro now
    rcases step j now with fresh | ⟨before, kept⟩
    · refine ⟨j + 1, by omega, Nat.le_refl _, fresh, fun i lo hi => ?_, fun i lo hi => by omega⟩
      obtain rfl : i = j + 1 := by omega
      exact now
    · obtain ⟨k, pos, le, started, held, kept'⟩ := ih before
      refine ⟨k, pos, by omega, started, fun i lo hi => ?_, fun i lo hi => ?_⟩
      · rcases Nat.lt_or_ge j i with last | earlier
        · obtain rfl : i = j + 1 := by omega
          exact now
        · exact held i lo earlier
      · rcases Nat.lt_or_ge j i with last | earlier
        · obtain rfl : i = j + 1 := by omega
          exact kept
        · exact kept' i lo earlier

end SmartClock.Run
