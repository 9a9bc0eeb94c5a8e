import ManifestRecipes.Proofs.Recipe.Visit
import Mathlib.Data.List.Nodup

/-
  Edits of different scalars.

  Edits are applied in turn, and one that leads nowhere, or not
  to a scalar, or asks for a text that is already there, leaves
  everything to the others.  Where no path is edited twice, what
  they do together depends on the tree they begin with and not
  on their order.

  Key definitions include:
    * `Edit.Changes`
    * `Tree.Edited`

  Main declarations:
    * `Tree.rewriteScalars?_isSome_iff`
    * `Tree.sameOutside_changes`
    * `Tree.rewriteScalars?_perm`
    * `Tree.rewriteScalars?_exact`
-/

namespace ManifestRecipes

namespace Edit

variable {t : Tree} {es : List Edit}

/- An edit asks for another text than the scalar at its path has. -/
def Changes (t : Tree) (e : Edit) : Prop :=
  ∃ s, t.lookup? e.path = some (.scalar s) ∧ s.text ≠ e.text

theorem changes_iff {e : Edit} :
    e.Changes t ↔ t.rewriteScalar? e ≠ none := by
  rw [ne_eq, Tree.rewriteScalar?_eq_none_iff]
  push Not
  rfl

theorem consistent_of_nodup_paths
    (hApart : (es.map Edit.path).Nodup) :
    Consistent es := by
  intro e hLeft f hRight hPath
  rw [List.inj_on_of_nodup_map hApart hLeft hRight hPath]

/- A scalar that no edit changes is kept by all of them. -/
theorem patch_scalar_of_no_change
    {p : Path}
    {s : Scalar}
    (hNode : t.lookup? p = some (.scalar s))
    (hNone : ∀ e ∈ es, e.Changes t → e.path ≠ p) :
    (patch es).scalar p s = s := by
  have hText : ∀ e ∈ es, e.path = p → e.text = s.text := by
    intro e hMember hPath
    subst hPath
    by_contra hOther
    exact hNone e hMember ⟨s, hNode, fun h => hOther h.symm⟩ rfl
  rw [patch_scalar_eq hText, Scalar.retext, if_pos rfl, ite_self]

end Edit

namespace Tree

variable {t t' : Tree} {es fs : List Edit}

/- A tree is rewritten exactly when an edit changes something. -/
theorem rewriteScalars?_isSome_iff :
    (t.rewriteScalars? es).isSome = true ↔
      ∃ e ∈ es, e.Changes t := by
  rw [Option.isSome_iff_ne_none, ne_eq, rewriteScalars?_eq_none_iff]
  simp only [Edit.changes_iff]
  push Not
  rfl

/- Edits leave all nodes in which they change nothing. -/
theorem sameOutside_changes (t : Tree) (es : List Edit) :
    t.SameOutside (fun p => ∃ e ∈ es, e.Changes t ∧ e.path = p)
      ((t.rewriteScalars? es).getD t) := by
  have hShapes := sameOutside_rewriteScalars? t es
  refine ⟨?_, hShapes.sequence, hShapes.mapping, hShapes.nowhere⟩
  intro p n hOutside hNode
  have hAgree : Patch.AgreeOn n ((Edit.patch es).under p)
      Patch.keep := by
    constructor
    · intro q s hScalar
      have hBelow : t.lookup? (p ++ q) = some (.scalar s) := by
        rw [lookup?_append, hNode, Option.bind_some, hScalar]
      apply Edit.patch_scalar_of_no_change hBelow
      intro e hMember hChanges hPath
      exact hOutside (p ++ q) ⟨e, hMember, hChanges, hPath⟩
        (List.prefix_append p q)
    · intro q ms _
      rfl
  rw [rewriteScalars?_getD_lookup? hNode, patched_eq_self hAgree]

/- Edits that agree do the same in any order. -/
theorem rewriteScalars?_perm
    (hSame : Edit.Consistent es)
    (hPerm : es.Perm fs) :
    t.rewriteScalars? fs = t.rewriteScalars? es := by
  have hTree : (t.rewriteScalars? es).getD t =
      (t.rewriteScalars? fs).getD t :=
    rewriteScalars?_getD_congr hSame fun _ => hPerm.mem_iff
  have hDone : (t.rewriteScalars? es).isSome =
      (t.rewriteScalars? fs).isSome := by
    rw [Bool.eq_iff_iff, rewriteScalars?_isSome_iff,
      rewriteScalars?_isSome_iff]
    simp only [hPerm.mem_iff]
  cases hLeft : t.rewriteScalars? es with
  | none =>
      rw [hLeft, Option.isSome_none] at hDone
      exact Option.isNone_iff_eq_none.mp
        (Option.isSome_eq_false_iff.mp hDone.symm)
  | some u =>
      rw [hLeft, Option.isSome_some] at hDone
      rcases Option.isSome_iff_exists.mp hDone.symm with
        ⟨v, hRight⟩
      rw [hLeft, hRight, Option.getD_some, Option.getD_some]
        at hTree
      rw [hRight, hTree]

/-
  A tree is another one with edited scalars.  It differs from
  the one before; each scalar that had another text than an
  edit asks for has this text now, a string as a string; and
  all nodes in which no edit changes anything are the same,
  those above an edited scalar keeping their shapes.
-/
structure Edited (t : Tree) (es : List Edit) (t' : Tree) : Prop where
  other : t' ≠ t
  text : ∀ e ∈ es, ∀ s, t.lookup? e.path = some (.scalar s) →
    s.text ≠ e.text → ∃ s',
      t'.lookup? e.path = some (.scalar s') ∧
        s' = s.withText e.text ∧ s'.text = e.text ∧
          (s.kind = .string → s'.kind = .string)
  outside : t.SameOutside
    (fun p => ∃ e ∈ es, e.Changes t ∧ e.path = p) t'

/-
  A tree is rewritten by edits of different paths exactly when
  one of them leads to a scalar with another text than it asks
  for.  Then the scalars with other texts are edited and all
  else is kept, whatever the order of the edits.
-/
theorem rewriteScalars?_exact
    (t : Tree)
    (es : List Edit)
    (hApart : (es.map Edit.path).Nodup) :
    ((t.rewriteScalars? es).isSome = true ↔
      ∃ e ∈ es, ∃ s,
        t.lookup? e.path = some (.scalar s) ∧ s.text ≠ e.text) ∧
    (∀ t', t.rewriteScalars? es = some t' → t.Edited es t') ∧
    ∀ fs : List Edit, es.Perm fs →
      t.rewriteScalars? fs = t.rewriteScalars? es := by
  have hSame := Edit.consistent_of_nodup_paths hApart
  refine ⟨rewriteScalars?_isSome_iff, ?_,
    fun fs => rewriteScalars?_perm hSame⟩
  intro t' hDone
  have hTree : (t.rewriteScalars? es).getD t = t' := by
    rw [hDone, Option.getD_some]
  refine
    { other := ne_of_rewriteScalars?_eq_some hSame hDone
      text := ?_
      outside := hTree ▸ sameOutside_changes t es }
  intro e hMember s hNode hText
  have hEdited := lookup?_of_edit hSame hMember hNode
  rw [hTree, Scalar.retext, if_neg hText] at hEdited
  refine ⟨_, hEdited, rfl, s.withText_text e.text, ?_⟩
  intro hString
  rw [Scalar.withText, hString]
  rfl

/-
  Of five edits two change something: one is of a sequence, one
  leads nowhere, and one asks for the text that is there.  The
  string of digits stays a string, and the number becomes one.
-/
theorem rewriteScalars?_exact_mixed :
    let t : Tree := .mapping
      [("a", .scalar (.infer "1")), ("b", .sequence
        [.string "2", .string "3"])]
    let es : List Edit :=
      [⟨[.field "b", .index 0], "1"⟩, ⟨[.field "b"], "x"⟩,
        ⟨[.field "a"], "y"⟩, ⟨[.field "a", .index 0], "z"⟩,
        ⟨[.field "b", .index 1], "3"⟩]
    let u : Tree := .mapping
      [("a", .scalar (.infer "y")), ("b", .sequence
        [.string "1", .string "3"])]
    (es.map Edit.path).Nodup ∧
    t.rewriteScalars? es = some u ∧
    t.Edited es u ∧
    t.rewriteScalars? es.reverse = some u := by
  intro t es u
  have hApart : (es.map Edit.path).Nodup := by decide
  have hDone : t.rewriteScalars? es = some u := by decide +kernel
  rcases rewriteScalars?_exact t es hApart with
    ⟨_, hEdited, hOrder⟩
  refine ⟨hApart, hDone, hEdited u hDone, ?_⟩
  rw [hOrder _ es.reverse_perm.symm, hDone]

end Tree

end ManifestRecipes
