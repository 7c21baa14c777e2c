import Mathlib.Data.List.Basic

/-!
# Keeping first occurrences

A loop that appends an element unless it equals one it kept before computes
`List.eraseDupsBy`, whatever the comparison is (`foldl_addNew`). Nothing is asked of the
comparison, not even that an element equals itself.
-/

namespace SmartClock.Lists

section FirstOccurrences

variable {α : Type} (eq : α → α → Bool)

/-- One round of the loop. -/
def addNew (kept : List α) (a : α) : List α := if kept.any (eq a) then kept else kept ++ [a]

/-- The loop from any list of kept elements. -/
theorem foldl_addNew (kept as : List α) :
    as.foldl (addNew eq) kept = kept ++ (as.filter fun a => !kept.any (eq a)).eraseDupsBy eq := by
  induction as generalizing kept with
  | nil => exact (List.append_nil kept).symm
  | cons a as ih =>
    rw [List.foldl_cons, addNew]
    cases known : kept.any (eq a) with
    | true => rw [if_pos rfl, ih, List.filter_cons_of_neg (by rw [known]; decide)]
    | false =>
      have fresh : (as.filter fun b => !(kept ++ [a]).any (eq b)) =
          (as.filter fun b => !kept.any (eq b)).filter fun b => eq b a = false := by
        rw [List.filter_filter]
        apply List.filter_congr
        intro b _
        cases same : eq b a <;> simp [same]
      rw [if_neg Bool.false_ne_true, ih, List.filter_cons_of_pos (by rw [known]; rfl),
        List.eraseDupsBy_cons, fresh, List.append_assoc]
      rfl

theorem foldl_addNew_nil (as : List α) : as.foldl (addNew eq) [] = as.eraseDupsBy eq := by
  rw [foldl_addNew, List.nil_append]
  exact congrArg (List.eraseDupsBy eq) (List.filter_eq_self.2 fun _ _ => rfl)

theorem pairwise_addNew {kept : List α} (h : kept.Pairwise fun earlier later => eq later earlier = false)
    (a : α) : (addNew eq kept a).Pairwise fun earlier later => eq later earlier = false := by
  unfold addNew
  cases known : kept.any (eq a) with
  | true => exact h
  | false =>
    refine List.pairwise_append.2 ⟨h, List.pairwise_singleton _ a, fun b inside c last => ?_⟩
    obtain rfl := List.mem_singleton.1 last
    exact Bool.eq_false_iff.2 (List.any_eq_false.1 known b inside)

/-- No kept element equals an earlier one. -/
theorem pairwise_eraseDupsBy (as : List α) :
    (as.eraseDupsBy eq).Pairwise fun earlier later => eq later earlier = false := by
  rw [← foldl_addNew_nil]
  exact List.foldlRecOn as (addNew eq) List.Pairwise.nil fun _ h a _ => pairwise_addNew eq h a

/-- The loop forgets nothing it kept. -/
theorem subset_foldl_addNew (as : List α) {kept : List α} {a : α} (h : a ∈ kept) :
    a ∈ as.foldl (addNew eq) kept := by
  rw [foldl_addNew]
  exact List.mem_append_left _ h

/-- Every element is kept, or equals a kept one. -/
theorem mem_or_equal_eraseDupsBy {as : List α} {a : α} (h : a ∈ as) :
    a ∈ as.eraseDupsBy eq ∨ ∃ b ∈ as.eraseDupsBy eq, eq a b = true := by
  obtain ⟨before, rest, rfl⟩ := List.append_of_mem h
  rw [← foldl_addNew_nil, List.foldl_append, List.foldl_cons]
  cases known : (before.foldl (addNew eq) []).any (eq a) with
  | true =>
    obtain ⟨b, inside, same⟩ := List.any_eq_true.1 known
    refine .inr ⟨b, subset_foldl_addNew eq rest ?_, same⟩
    rw [addNew, known]
    exact inside
  | false =>
    refine .inl (subset_foldl_addNew eq rest ?_)
    rw [addNew, known]
    exact List.mem_append_right _ (List.mem_singleton_self a)

end FirstOccurrences

end SmartClock.Lists
