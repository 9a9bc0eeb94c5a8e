import Mathlib.Data.List.Induction
import Mathlib.Data.List.Nodup
import Mathlib.Tactic.SplitIfs

/-
  Lists of which only first occurrences are kept.

  A list that grows at its end keeps what it had, so all of
  this is by induction from the end.  Parts of a list may be
  freed of repetitions before the whole is.

  Main declarations:
    * `eraseDups_append_singleton`
    * `nodup_eraseDups`
    * `eraseDups_eq_self`
    * `eraseDups_append_eraseDups`
-/

namespace ManifestRecipes

section FirstOccurrence

variable {α : Type} [BEq α] [LawfulBEq α]

/- A further member is kept unless it repeats an earlier one. -/
theorem eraseDups_append_singleton (xs : List α) (x : α) :
    (xs ++ [x]).eraseDups =
      if x ∈ xs then xs.eraseDups else xs.eraseDups ++ [x] := by
  rw [List.eraseDups_append]
  split_ifs with hOld
  · have hGone : [x].removeAll xs = [] := by
      simpa [List.removeAll] using hOld
    rw [hGone, List.eraseDups_nil, List.append_nil]
  · have hLeft : [x].removeAll xs = [x] := by
      simpa [List.removeAll] using hOld
    rw [hLeft, List.eraseDups_cons, List.filter_nil,
      List.eraseDups_nil]

/- Members that are kept are different ones. -/
theorem nodup_eraseDups (xs : List α) : xs.eraseDups.Nodup := by
  induction xs using List.reverseRecOn with
  | nil => exact List.nodup_nil
  | append_singleton xs x ih =>
      rw [eraseDups_append_singleton]
      split_ifs with hOld
      · exact ih
      · have hNew : x ∉ xs.eraseDups :=
          fun hKept => hOld (List.mem_eraseDups.mp hKept)
        exact ih.append (List.nodup_singleton x)
          (List.disjoint_singleton.mpr hNew)

/- Where nothing is repeated, all is kept. -/
theorem eraseDups_eq_self {xs : List α} (hApart : xs.Nodup) :
    xs.eraseDups = xs := by
  induction xs using List.reverseRecOn with
  | nil => rfl
  | append_singleton xs x ih =>
      rcases List.nodup_append.mp hApart with ⟨hFirst, _, hLast⟩
      have hNew : x ∉ xs :=
        fun hOld => hLast x hOld x List.mem_cons_self rfl
      rw [eraseDups_append_singleton, if_neg hNew, ih hFirst]

/- It is the same whether the end was freed of repetitions before. -/
theorem eraseDups_append_eraseDups (xs ys : List α) :
    (xs ++ ys.eraseDups).eraseDups = (xs ++ ys).eraseDups := by
  induction ys using List.reverseRecOn with
  | nil => rfl
  | append_singleton ys y ih =>
      rw [eraseDups_append_singleton ys, ← List.append_assoc,
        eraseDups_append_singleton (xs ++ ys), ← ih]
      by_cases hOld : y ∈ ys
      · rw [if_pos hOld, if_pos (List.mem_append_right xs hOld)]
      · rw [if_neg hOld, ← List.append_assoc,
          eraseDups_append_singleton]
        simp only [List.mem_append, List.mem_eraseDups]

end FirstOccurrence

end ManifestRecipes
