import Mathlib.Data.List.Basic

/-!
# Runs of a machine whose steps may be disabled

A machine is a partial step function `step : σ → ι → Option σ`: `none` says that the step
cannot be taken in that state. `run` takes a list of steps one after the other, and is
`none` as soon as one of them is disabled, so the lists it accepts are the machine's
interleavings.

`Along P` says that every step of a run is taken from a state where `P` allows it. The
rule for it is `along_or_left`: with one invariant kept while every step is allowed and
another that the first disallowed step brings about and nothing undoes, the last state
alone tells whether the whole run was allowed. What a step of a run first brings about is found
by `run_brings`, and `gated` puts two machines side by side.
-/

namespace SmartClock.Run

section Partial

variable {σ ι : Type} (step : σ → ι → Option σ)

/-- The state after a list of steps, if every one of them could be taken. -/
def run (s : σ) : List ι → Option σ
  | [] => some s
  | i :: rest => (step s i).bind fun s' => run s' rest

/-- Every step of the run from `s` is taken from a state where `P` allows it. -/
def Along (P : σ → ι → Prop) (s : σ) : List ι → Prop
  | [] => True
  | i :: rest =>
    P s i ∧ match step s i with
      | some s' => Along P s' rest
      | none => True

instance decidableAlong (P : σ → ι → Prop) [∀ s i, Decidable (P s i)] (s : σ) :
    (is : List ι) → Decidable (Along step P s is)
  | [] => .isTrue trivial
  | i :: rest =>
    match taken : step s i with
    | some s' =>
      have := decidableAlong P s' rest
      decidable_of_iff (P s i ∧ Along step P s' rest) (by rw [Along, taken])
    | none => decidable_of_iff (P s i) (by rw [Along, taken, and_true])

variable {step}

@[simp] theorem run_nil (s : σ) : run step s [] = some s := rfl

/-- A run is its first step and a run from there. -/
theorem run_cons {s s'' : σ} {i : ι} {rest : List ι} :
    run step s (i :: rest) = some s'' ↔
      ∃ s', step s i = some s' ∧ run step s' rest = some s'' := by
  simp [run, Option.bind_eq_some_iff]

theorem along_cons {P : σ → ι → Prop} {s s' : σ} {i : ι} {rest : List ι}
    (taken : step s i = some s') :
    Along step P s (i :: rest) ↔ P s i ∧ Along step P s' rest := by
  rw [Along, taken]

/-- What every step keeps holds after every run. -/
theorem run_invariant {Inv : σ → Prop}
    (keep : ∀ s i s', Inv s → step s i = some s' → Inv s') :
    ∀ {is : List ι} {s s' : σ}, Inv s → run step s is = some s' → Inv s'
  | [], s, s', inv, ran => by
    obtain rfl : s = s' := by simpa using ran
    exact inv
  | i :: rest, s, s', inv, ran => by
    obtain ⟨mid, taken, ran⟩ := run_cons.1 ran
    exact run_invariant keep (keep s i mid inv taken) ran

/-- What every step keeps, once it holds, is kept by every run of steps that are all of a
kind `Q`. -/
theorem run_invariant_of_forall {Inv : σ → Prop} {Q : ι → Prop}
    (keep : ∀ s i s', Inv s → Q i → step s i = some s' → Inv s') :
    ∀ {is : List ι} {s s' : σ}, (∀ i ∈ is, Q i) → Inv s → run step s is = some s' → Inv s'
  | [], s, s', _, inv, ran => by
    obtain rfl : s = s' := by simpa using ran
    exact inv
  | i :: rest, s, s', kind, inv, ran => by
    obtain ⟨mid, taken, ran⟩ := run_cons.1 ran
    exact run_invariant_of_forall keep (fun j inRest => kind j (List.mem_cons_of_mem i inRest))
      (keep s i mid inv (kind i List.mem_cons_self) taken) ran

/-- What holds after a run and not before it was brought about by one of its steps. -/
theorem run_brings {P : σ → Prop} :
    ∀ {is : List ι} {s s' : σ}, ¬ P s → run step s is = some s' → P s' →
      ∃ earlier i later mid mid', is = earlier ++ i :: later ∧ run step s earlier = some mid ∧
        step mid i = some mid' ∧ ¬ P mid ∧ P mid'
  | [], s, s', lacks, ran, holds => by
    obtain rfl : s = s' := by simpa using ran
    exact absurd holds lacks
  | i :: rest, s, s', lacks, ran, holds => by
    obtain ⟨next, taken, ran⟩ := run_cons.1 ran
    by_cases now : P next
    · exact ⟨[], i, rest, s, next, rfl, rfl, taken, lacks, now⟩
    · obtain ⟨earlier, j, later, mid, mid', split, before, brought⟩ := run_brings now ran holds
      exact ⟨i :: earlier, j, later, mid, mid', by rw [split, List.cons_append],
        run_cons.2 ⟨next, taken, before⟩, brought⟩

/-- What every allowed step keeps, once it holds, is kept by every run that is allowed all along. -/
theorem run_invariant_of_along {P : σ → ι → Prop} {Inv : σ → Prop}
    (keep : ∀ s i s', Inv s → P s i → step s i = some s' → Inv s') :
    ∀ {is : List ι} {s s' : σ}, Along step P s is → Inv s → run step s is = some s' → Inv s'
  | [], s, s', _, inv, ran => by
    obtain rfl : s = s' := by simpa using ran
    exact inv
  | i :: rest, s, s', along, inv, ran => by
    obtain ⟨mid, taken, ran⟩ := run_cons.1 ran
    obtain ⟨allowed, along⟩ := (along_cons taken).1 along
    exact run_invariant_of_along keep along (keep s i mid inv allowed taken) ran

/-- **Allowed all along, or left for good.** `Kept` is kept by the allowed steps, the first
step that is not allowed brings `Left` about, and `Left` stays. -/
theorem along_or_left {P : σ → ι → Prop} {Q : ι → Prop} {Kept Left : σ → Prop}
    (kept : ∀ s i s', Kept s → Q i → P s i → step s i = some s' → Kept s')
    (leave : ∀ s i s', Kept s → Q i → ¬ P s i → step s i = some s' → Left s')
    (stay : ∀ s i s', Left s → Q i → step s i = some s' → Left s') :
    ∀ {is : List ι} {s s' : σ}, (∀ i ∈ is, Q i) → Kept s → run step s is = some s' →
      (Along step P s is ∧ Kept s') ∨ (¬ Along step P s is ∧ Left s')
  | [], s, s', _, begun, ran => by
    obtain rfl : s = s' := by simpa using ran
    exact .inl ⟨trivial, begun⟩
  | i :: rest, s, s', kind, begun, ran => by
    obtain ⟨mid, taken, ran⟩ := run_cons.1 ran
    have kindFirst : Q i := kind i List.mem_cons_self
    have kindRest : ∀ j ∈ rest, Q j := fun j inRest => kind j (List.mem_cons_of_mem i inRest)
    rw [along_cons taken]
    by_cases allowed : P s i
    · have := along_or_left kept leave stay kindRest (kept s i mid begun kindFirst allowed taken)
        ran
      simpa only [allowed, true_and] using this
    · exact .inr ⟨fun along => allowed along.1,
        run_invariant_of_forall stay kindRest (leave s i mid begun kindFirst allowed taken) ran⟩

end Partial

/-! ## Two machines side by side -/

section Gated

variable {σ τ ι κ : Type} (step : σ → ι → Option σ) (step' : τ → κ → Option τ) (gate : σ → κ → Bool)

/-- Two machines. The first one's state says which steps of the second can be taken. -/
def gated (s : σ × τ) : ι ⊕ κ → Option (σ × τ)
  | .inl i => (step s.1 i).map fun next => (next, s.2)
  | .inr k => if gate s.1 k then (step' s.2 k).map fun next => (s.1, next) else none

/-- The first machine's steps. -/
def firsts (is : List (ι ⊕ κ)) : List ι := is.filterMap Sum.getLeft?

variable {step step' gate}

theorem gated_cases {s s' : σ × τ} {i : ι ⊕ κ} (taken : gated step step' gate s i = some s') :
    (∃ j, i = .inl j ∧ step s.1 j = some s'.1 ∧ s'.2 = s.2) ∨
      ∃ k, i = .inr k ∧ gate s.1 k = true ∧ step' s.2 k = some s'.2 ∧ s'.1 = s.1 := by
  cases i with
  | inl j =>
    obtain ⟨next, stepped, rfl⟩ := Option.map_eq_some_iff.1 taken
    exact .inl ⟨j, rfl, stepped, rfl⟩
  | inr k =>
    rw [gated, Option.ite_none_right_eq_some] at taken
    obtain ⟨next, stepped, rfl⟩ := Option.map_eq_some_iff.1 taken.2
    exact .inr ⟨k, rfl, taken.1, stepped, rfl⟩

/-- A run of both has a run of the first one in it. -/
theorem run_firsts {is : List (ι ⊕ κ)} {s s' : σ × τ} (ran : run (gated step step' gate) s is = some s') :
    run step s.1 (firsts is) = some s'.1 := by
  induction is generalizing s with
  | nil =>
    obtain rfl : s = s' := by simpa using ran
    rfl
  | cons i rest ih =>
    obtain ⟨mid, taken, ran⟩ := run_cons.1 ran
    have later := ih ran
    rcases gated_cases taken with ⟨j, rfl, stepped, -⟩ | ⟨k, rfl, -, -, same⟩
    · exact run_cons.2 ⟨mid.1, stepped, later⟩
    · rwa [same] at later

end Gated

end SmartClock.Run
