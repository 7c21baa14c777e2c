import Mathlib.Data.List.Basic

/-!
# Programs that may fault

A program is a step function on its states: a step goes on, halts, or faults. `Halts` says
that the run from a state ends in a halt. As the step is a function, there is no other run:
every state it reaches is on the way to that end (`Halts.on_way`), so none of its steps
faults (`Halts.no_fault`).
-/

namespace SmartClock.Run

/-- What a step does. -/
inductive StepOutcome (σ : Type) where
  | next (s : σ)
  | halt
  | fault

/-- A step whose accesses may be refused. -/
def StepOutcome.checked {σ : Type} : Option σ → StepOutcome σ
  | some s => .next s
  | none => .fault

section Checked

variable {σ : Type} (step : σ → StepOutcome σ)

/-- The run from a state leads to another one. -/
inductive Leads : σ → σ → Prop where
  | refl (s : σ) : Leads s s
  | step {s s' s'' : σ} : step s = .next s' → Leads s' s'' → Leads s s''

/-- The run from `s` ends in `final`. -/
def Halts (s final : σ) : Prop := Leads step s final ∧ step final = .halt

variable {step}

theorem Leads.one {s s' : σ} (taken : step s = .next s') : Leads step s s' :=
  .step taken (.refl s')

theorem Leads.trans {s s' s'' : σ} (h : Leads step s s') (h' : Leads step s' s'') :
    Leads step s s'' := by
  induction h with
  | refl => exact h'
  | step taken _ ih => exact .step taken (ih h')

/-- Every state on the way to a halt gets there. -/
theorem Halts.on_way {s s' final : σ} (h : Halts step s final) (reached : Leads step s s') :
    Halts step s' final := by
  obtain ⟨ran, halted⟩ := h
  induction reached with
  | refl => exact ⟨ran, halted⟩
  | step taken _ ih =>
    cases ran with
    | refl =>
      rw [taken] at halted
      cases halted
    | step taken' ran =>
      obtain rfl := StepOutcome.next.inj (taken.symm.trans taken')
      exact ih ran

/-- A run that halts never faults. -/
theorem Halts.no_fault {s s' final : σ} (h : Halts step s final) (reached : Leads step s s') :
    step s' ≠ .fault := by
  intro faulted
  obtain ⟨ran, halted⟩ := h.on_way reached
  cases ran with
  | refl =>
    rw [faulted] at halted
    cases halted
  | step taken _ =>
    rw [faulted] at taken
    cases taken

end Checked

end SmartClock.Run
