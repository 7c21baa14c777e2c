import Mathlib.Data.List.Infix
import Mathlib.Data.Nat.Find

/-!
# First occurrences

`find needle hay` is the offset of the first occurrence of `needle` in `hay`. Three facts
let a proof move the search through a structured text: an occurrence in a cut text is an
occurrence of the whole one that ends before the cut (`find_take`), an element that the
needle lacks separates the text into two searches (`find_append_sep`), and a needle that
begins the text is found at once (`find_append_self`).
-/

namespace SmartClock.Text

variable {α : Type} [DecidableEq α]

/-- The offset of the first occurrence of `needle`. -/
def find (needle : List α) : List α → Option Nat
  | [] => if needle = [] then some 0 else none
  | c :: rest => if needle <+: c :: rest then some 0 else (find needle rest).map (· + 1)

theorem find_of_isPrefix {needle hay : List α} (h : needle <+: hay) : find needle hay = some 0 := by
  cases hay with
  | nil => simp [find, List.prefix_nil.1 h]
  | cons c rest => simp [find, h]

theorem find_cons_of_not {needle : List α} {c : α} {rest : List α} (h : ¬ needle <+: c :: rest) :
    find needle (c :: rest) = (find needle rest).map (· + 1) := by simp [find, h]

/-- A needle that begins the text is found at once. -/
theorem find_append_self (needle rest : List α) : find needle (needle ++ rest) = some 0 :=
  find_of_isPrefix (List.prefix_append needle rest)

theorem find_eq_some_iff {needle hay : List α} {i : Nat} :
    find needle hay = some i ↔
      i ≤ hay.length ∧ needle <+: hay.drop i ∧ ∀ j, j < i → ¬ needle <+: hay.drop j := by
  induction hay generalizing i with
  | nil =>
    by_cases empty : needle = []
    · simp only [find, empty, if_true, Option.some.injEq, List.length_nil]
      constructor
      · rintro rfl; simp
      · rintro ⟨le, -, -⟩; omega
    · simp [find, empty]
  | cons c rest ih =>
    by_cases here : needle <+: c :: rest
    · rw [find_of_isPrefix here, Option.some.injEq]
      constructor
      · rintro rfl; exact ⟨Nat.zero_le _, here, fun j lt => by omega⟩
      · rintro ⟨-, -, first⟩
        by_contra ne
        exact first 0 (by omega) here
    · rw [find_cons_of_not here, Option.map_eq_some_iff]
      constructor
      · rintro ⟨k, found, rfl⟩
        obtain ⟨le, occurs, first⟩ := ih.1 found
        refine ⟨by simpa using le, occurs, fun j lt => ?_⟩
        cases j with
        | zero => exact here
        | succ j => exact first j (by omega)
      · rintro ⟨le, occurs, first⟩
        cases i with
        | zero => exact absurd occurs here
        | succ k =>
          exact ⟨k, ih.2 ⟨by simpa using le, occurs, fun j lt => first (j + 1) (by omega)⟩, rfl⟩

theorem find_eq_none_iff {needle hay : List α} :
    find needle hay = none ↔ ∀ j, j ≤ hay.length → ¬ needle <+: hay.drop j := by
  constructor
  · intro missing j le occurs
    have least : ∃ i, i ≤ j ∧ needle <+: hay.drop i ∧ ∀ k, k < i → ¬ needle <+: hay.drop k := by
      have somewhere : ∃ i, needle <+: hay.drop i := ⟨j, occurs⟩
      exact ⟨Nat.find somewhere, Nat.find_min' somewhere occurs, Nat.find_spec somewhere,
        fun k lt => Nat.find_min somewhere lt⟩
    obtain ⟨i, le', hit, first⟩ := least
    rw [find_eq_some_iff.2 ⟨by omega, hit, first⟩] at missing
    cases missing
  · intro never
    cases found : find needle hay with
    | none => rfl
    | some i =>
      obtain ⟨le, occurs, -⟩ := find_eq_some_iff.1 found
      exact absurd occurs (never i le)

theorem find_le {needle hay : List α} {i : Nat} (h : find needle hay = some i) :
    i + needle.length ≤ hay.length := by
  obtain ⟨le, occurs, -⟩ := find_eq_some_iff.1 h
  have := occurs.length_le
  rw [List.length_drop] at this
  omega

omit [DecidableEq α] in
/-- A nonempty needle begins a cut text iff it begins the text and ends before the cut. -/
theorem isPrefix_drop_take {needle hay : List α} (ne : needle ≠ []) (q j : Nat) :
    needle <+: (hay.take q).drop j ↔ needle <+: hay.drop j ∧ j + needle.length ≤ q := by
  have pos := List.length_pos_iff.2 ne
  rw [List.drop_take]
  constructor
  · intro h
    have len := h.length_le
    rw [List.length_take] at len
    exact ⟨h.trans (List.take_prefix _ _), by omega⟩
  · rintro ⟨h, le⟩
    exact List.prefix_take_iff.2 ⟨h, by omega⟩

/-- **Cutting the text** keeps the first occurrence if it ends before the cut, and leaves
no occurrence otherwise. -/
theorem find_take {needle hay : List α} (ne : needle ≠ []) (q : Nat) :
    find needle (hay.take q) = (find needle hay).filter fun i => decide (i + needle.length ≤ q) := by
  cases found : find needle hay with
  | none =>
    rw [Option.filter_none, find_eq_none_iff]
    intro j le occurs
    rw [List.length_take] at le
    exact find_eq_none_iff.1 found j (by omega) ((isPrefix_drop_take ne q j).1 occurs).1
  | some i =>
    obtain ⟨le, occurs, first⟩ := find_eq_some_iff.1 found
    have ends := find_le found
    by_cases inside : i + needle.length ≤ q
    · rw [Option.filter_some_pos (by simpa using inside), find_eq_some_iff]
      refine ⟨by rw [List.length_take]; omega, (isPrefix_drop_take ne q i).2 ⟨occurs, inside⟩, ?_⟩
      exact fun j lt hit => first j lt ((isPrefix_drop_take ne q j).1 hit).1
    · rw [Option.filter_some_neg (by simpa using inside), find_eq_none_iff]
      intro j _ hit
      obtain ⟨hit, le'⟩ := (isPrefix_drop_take ne q j).1 hit
      exact first j (by omega) hit

/-- A first occurrence stays the first one when the text grows. -/
theorem find_append_left {needle hay : List α} {i : Nat} (ne : needle ≠ []) (more : List α)
    (h : find needle hay = some i) : find needle (hay ++ more) = some i := by
  have cut : find needle ((hay ++ more).take hay.length) = _ := find_take ne hay.length
  rw [List.take_left, h] at cut
  exact (Option.filter_eq_some_iff.1 cut.symm).1

omit [DecidableEq α] in
/-- A needle without `c` begins `a ++ c :: b` iff it begins `a`. -/
theorem isPrefix_append_sep {needle a b : List α} {c : α} (sep : c ∉ needle) :
    needle <+: a ++ c :: b ↔ needle <+: a := by
  constructor
  · intro h
    rcases List.prefix_or_prefix_of_prefix h (List.prefix_append a (c :: b)) with within | ⟨rest, rfl⟩
    · exact within
    · rw [List.prefix_append_right_inj] at h
      cases rest with
      | nil => simp
      | cons d rest =>
        rw [List.cons_prefix_cons] at h
        exact absurd (List.mem_append_right a (h.1 ▸ List.mem_cons_self)) sep
  · exact fun h => h.trans (List.prefix_append _ _)

/-- **An element the needle lacks** separates the search into one before and one after it. -/
theorem find_append_sep {needle a b : List α} {c : α} (ne : needle ≠ []) (sep : c ∉ needle) :
    find needle (a ++ c :: b) =
      (find needle a).or ((find needle b).map (· + (a.length + 1))) := by
  induction a with
  | nil =>
    have off : ¬ needle <+: c :: b := fun h =>
      ne (List.prefix_nil.1 ((isPrefix_append_sep (a := []) sep).1 h))
    rw [List.nil_append, find_cons_of_not off, find, if_neg ne, Option.none_or, List.length_nil]
  | cons d a ih =>
    by_cases here : needle <+: d :: a
    · rw [find_of_isPrefix here, find_of_isPrefix (here.trans (List.prefix_append _ _)),
        Option.some_or]
    · have off : ¬ needle <+: d :: (a ++ c :: b) := fun h =>
        here ((isPrefix_append_sep (a := d :: a) sep).1 h)
      rw [List.cons_append, find_cons_of_not off, find_cons_of_not here, ih]
      cases find needle a with
      | some i => simp
      | none =>
        simp only [Option.none_or, Option.map_none, Option.map_map]
        congr 1

/-- The search goes on behind a separator. -/
theorem find_sep_cons {needle : List α} {c : α} (ne : needle ≠ []) (sep : c ∉ needle) (b : List α) :
    find needle (c :: b) = (find needle b).map (· + 1) := by
  have skipped := find_append_sep (a := []) (b := b) ne sep
  rwa [List.nil_append, find, if_neg ne, Option.none_or] at skipped

/-- No occurrence before the separator: the search may start at it. -/
theorem find_skip {needle a b : List α} {c : α} (ne : needle ≠ []) (sep : c ∉ needle)
    (missing : find needle a = none) :
    find needle (a ++ c :: b) = (find needle (c :: b)).map (· + a.length) := by
  rw [find_append_sep ne sep, missing, Option.none_or, find_sep_cons ne sep, Option.map_map]
  congr 1
  funext i
  simp only [Function.comp_apply]
  omega

/-- A needle with an element the text lacks does not occur. -/
theorem find_eq_none_of_not_mem {needle hay : List α} {c : α} (inNeedle : c ∈ needle)
    (notInHay : c ∉ hay) : find needle hay = none := by
  rw [find_eq_none_iff]
  intro j _ occurs
  exact notInHay (List.mem_of_mem_drop (occurs.subset inNeedle))

end SmartClock.Text
