import Mathlib.Data.List.Basic

/-!
# Falling edges of a sampled signal

A signal is sampled as the level 0 or 1, or as a negative error. A detector that stores
every sample, errors included, sees the falls of the raw sequence (`falls`); what it is
there for are the falls of the good samples (`good`). The two counts differ by the falls
right behind an error (`falls_add_lost`), and are equal if and only if no error hides a
fall (`falls_good_iff`).
-/

namespace SmartClock.Run

/-- How often the level goes from 1 to 0, with `last` in front of the samples. -/
def falls : Int → List Int → Nat
  | _, [] => 0
  | last, now :: rest => (if now = 0 ∧ last = 1 then 1 else 0) + falls now rest

/-- The samples that are no errors. -/
def good (samples : List Int) : List Int := samples.filter fun sample => decide (0 ≤ sample)

/-- An error right before a 0 hides a fall if the last good sample before it is a 1. -/
def Hides (last : Int) (samples : List Int) : Prop :=
  ∃ before error after, samples = before ++ error :: 0 :: after ∧ error < 0 ∧
    (good before).getLastD last = 1

theorem good_error {sample : Int} (h : sample < 0) (rest : List Int) :
    good (sample :: rest) = good rest :=
  List.filter_cons_of_neg (by simpa using h)

theorem good_sample {sample : Int} (h : 0 ≤ sample) (rest : List Int) :
    good (sample :: rest) = sample :: good rest :=
  List.filter_cons_of_pos (by simpa using h)

/-- One more sample adds a fall if it is a 0 right after a 1. -/
theorem falls_append (last : Int) (samples : List Int) (now : Int) :
    falls last (samples ++ [now]) =
      falls last samples + if now = 0 ∧ samples.getLastD last = 1 then 1 else 0 := by
  induction samples generalizing last with
  | nil => simp [falls]
  | cons sample rest ih => rw [List.cons_append, falls, falls, ih, List.getLastD_cons, Nat.add_assoc]

/-! ## What the errors cost -/

/-- The falls hidden in `samples`, behind a last good sample `level`. `failed` says whether
the sample right before was an error. -/
def lost : Int → Bool → List Int → Nat
  | _, _, [] => 0
  | level, failed, now :: rest =>
    if now < 0 then lost level true rest
    else (if now = 0 ∧ level = 1 ∧ failed = true then 1 else 0) + lost now false rest

theorem lost_error {now : Int} (h : now < 0) (level : Int) (failed : Bool) (rest : List Int) :
    lost level failed (now :: rest) = lost level true rest := if_pos h

theorem lost_sample {now : Int} (h : 0 ≤ now) (level : Int) (failed : Bool) (rest : List Int) :
    lost level failed (now :: rest) =
      (if now = 0 ∧ level = 1 ∧ failed = true then 1 else 0) + lost now false rest :=
  if_neg (Int.not_lt.2 h)

/-- The raw sequence shows every fall of the good samples but the lost ones. `last` is the
sample right before, `level` the last good one. -/
theorem falls_add_lost (samples : List Int) (failed : Bool) {last level : Int}
    (error : failed = true → last < 0) (same : failed = false → last = level) :
    falls last samples + lost level failed samples = falls level (good samples) := by
  induction samples generalizing failed last level with
  | nil => rfl
  | cons now rest ih =>
    rcases Int.lt_or_le now 0 with fails | reads
    · have next := ih true (fun _ => fails) (nofun : true = false → now = level)
      have noFall : ¬ (now = 0 ∧ last = 1) := by omega
      rw [lost_error fails, good_error fails, ← next, falls, if_neg noFall, Nat.zero_add]
    · have next := ih false nofun (fun _ => (rfl : now = now))
      rw [lost_sample reads, good_sample reads, falls, falls, ← next]
      cases failed with
      | true =>
        have noFall : ¬ (now = 0 ∧ last = 1) := by have := error rfl; omega
        simp only [noFall, if_false, and_true]
        omega
      | false =>
        rw [same rfl]
        simp only [Bool.false_eq_true, and_false, if_false]
        omega

/-- An error hides a fall at the head of the sequence, or further on. -/
theorem hides_cons (last now : Int) (rest : List Int) :
    Hides last (now :: rest) ↔
      (now < 0 ∧ last = 1 ∧ ∃ after, rest = 0 :: after) ∨ Hides (if now < 0 then last else now) rest := by
  constructor
  · rintro ⟨before, error, after, split, fails, level⟩
    cases before with
    | nil =>
      obtain ⟨rfl, rfl⟩ := List.cons.inj split
      exact .inl ⟨fails, level, after, rfl⟩
    | cons first before =>
      obtain ⟨rfl, rfl⟩ := List.cons.inj split
      refine .inr ⟨before, error, after, rfl, fails, ?_⟩
      rcases Int.lt_or_le now 0 with bad | reads
      · rwa [if_pos bad, ← good_error bad]
      · rwa [if_neg (Int.not_lt.2 reads), ← List.getLastD_cons, ← good_sample reads]
  · rintro (⟨fails, level, after, rfl⟩ | ⟨before, error, after, rfl, fails, level⟩)
    · exact ⟨[], now, after, rfl, fails, level⟩
    · refine ⟨now :: before, error, after, rfl, fails, ?_⟩
      rcases Int.lt_or_le now 0 with bad | reads
      · rwa [if_pos bad, ← good_error bad] at level
      · rw [good_sample reads, List.getLastD_cons]
        rwa [if_neg (Int.not_lt.2 reads)] at level

theorem not_hides_nil (last : Int) : ¬ Hides last [] := by
  rintro ⟨before, error, after, split, -, -⟩
  cases before <;> cases split

/-- A fall is lost exactly where an error hides it. -/
theorem lost_eq_zero_iff (samples : List Int) (level : Int) (failed : Bool) :
    lost level failed samples = 0 ↔
      ¬ (failed = true ∧ level = 1 ∧ ∃ after, samples = 0 :: after) ∧ ¬ Hides level samples := by
  induction samples generalizing level failed with
  | nil => simp [lost, not_hides_nil]
  | cons now rest ih =>
    rcases Int.lt_or_le now 0 with fails | reads
    · have notZero : now ≠ 0 := by omega
      rw [lost_error fails, ih, hides_cons, if_pos fails]
      simp [notZero, fails]
    · have reads' : ¬ now < 0 := Int.not_lt.2 reads
      rw [lost_sample reads, Nat.add_eq_zero_iff, ih, hides_cons, if_neg reads']
      by_cases hidden : now = 0 ∧ level = 1 ∧ failed = true
      · simp [hidden]
      · simp only [hidden, if_false, true_and, reads', false_and, false_or, Bool.false_eq_true,
          not_false_eq_true, List.cons.injEq]
        refine ⟨fun h => ⟨?_, h⟩, fun h => h.2⟩
        rintro ⟨failed, level, after, zero, -⟩
        exact hidden ⟨zero, level, failed⟩

/-- **Storing errors as levels** keeps the count of falls if and only if no error hides one. -/
theorem falls_good_iff (level : Int) (samples : List Int) :
    falls level samples = falls level (good samples) ↔ ¬ Hides level samples := by
  have count := falls_add_lost samples false nofun (fun _ => (rfl : level = level))
  have none := lost_eq_zero_iff samples level false
  simp only [Bool.false_eq_true, false_and, not_false_eq_true, true_and] at none
  rw [← none, ← count]
  omega

end SmartClock.Run
