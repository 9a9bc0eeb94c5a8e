import ManifestRecipes.Proofs.Cursor
import ManifestRecipes.Proofs.Patch
import ManifestRecipes.Recipe.Visit
import ManifestRecipes.Resource
import Mathlib.Data.List.Induction

/-
  What a visit leaves behind.

  Edits are applied one after the other, each to the tree that
  the ones before it have left.  All together they act as one
  patch of the scalars of the tree they began with.

  Key definitions include:
    * `Visit.result`
    * `Scalar.retext`
    * `Edit.patch`
    * `Edit.Consistent`
    * `Tree.SameOutside`
    * `Tree.HoldsText`
    * `Visit.Truthful`

  Main declarations:
    * `Tree.rewriteScalars?_getD`
    * `Tree.rewriteScalars?_eq_none_iff`
    * `Tree.lookup?_rewritten_eq_scalar`
    * `Tree.textAt?_rewriteScalars?`
    * `Tree.ne_of_rewriteScalars?_eq_some`
    * `Tree.sameOutside_rewriteScalars?`
    * `Tree.mem_nodesWhere_iff_holdsText`
    * `Visit.truthful_rewritten`
-/

namespace ManifestRecipes

/- The document after a visit. -/
def Visit.result (v : Visit) (t : Tree) : Tree :=
  v.root?.getD t

------------------------------------------------------------
-- Texts of Scalars
------------------------------------------------------------

namespace Scalar

@[simp] theorem withText_text (s : Scalar) (text : String) :
    (s.withText text).text = text := by
  unfold withText
  split <;> rfl

/- The scalar after its text was asked for; it keeps one that it has. -/
def retext (s : Scalar) (text : String) : Scalar :=
  if s.text = text then s else s.withText text

@[simp] theorem retext_text (s : Scalar) (text : String) :
    (s.retext text).text = text := by
  unfold retext
  split_ifs with hSame
  · exact hSame
  · exact withText_text s text

/- Asking for a text once more changes nothing. -/
@[simp] theorem retext_retext (s : Scalar) (text : String) :
    (s.retext text).retext text = s.retext text := by
  rw [retext, if_pos (retext_text s text)]

/- Only a null text makes a scalar null that has not been null. -/
theorem isNullText_of_retext
    {s : Scalar}
    {text : String}
    (hText : s.isNull = false)
    (hNull : (s.retext text).isNull = true) :
    isNullText text = true := by
  unfold retext at hNull
  split_ifs at hNull with hSame
  · rw [hText] at hNull
    cases hNull
  · unfold withText at hNull
    split at hNull
    · cases hNull
    · by_contra hOther
      rw [infer, isNull, inferKind, if_neg hOther,
        decide_eq_true_eq] at hNull
      split_ifs at hNull

end Scalar

------------------------------------------------------------
-- Edits as Patches
------------------------------------------------------------

namespace Edit

/- What an edit makes of the scalar at a path. -/
def scalarAt (p : Path) (s : Scalar) (e : Edit) : Scalar :=
  if e.path = p then s.retext e.text else s

/- What edits make of the scalars of a tree, one after the other. -/
def patch (es : List Edit) : Patch :=
  ⟨fun p s => es.foldl (scalarAt p) s, fun _ _ => []⟩

@[simp] theorem patch_extra
    (es : List Edit)
    (p : Path)
    (fs : Mapping Tree) :
    (patch es).extra p fs = [] := by
  rfl

/- One edit more acts on what the others leave. -/
@[simp] theorem patch_append_scalar
    (es : List Edit)
    (e : Edit)
    (p : Path)
    (s : Scalar) :
    (patch (es ++ [e])).scalar p s =
      scalarAt p ((patch es).scalar p s) e := by
  simp [patch]

theorem patch_append_scalar_eq
    (es fs : List Edit)
    (p : Path)
    (s : Scalar) :
    (patch (es ++ fs)).scalar p s =
      (patch fs).scalar p ((patch es).scalar p s) := by
  exact List.foldl_append

/- One edit more acts at its own path only. -/
theorem patch_append_agreeOutside
    (es : List Edit)
    (e : Edit) :
    Patch.AgreeOutside e.path (patch es) (patch (es ++ [e])) := by
  intro q hOutside
  have hOther : e.path ≠ q := by
    rintro rfl
    exact hOutside List.prefix_rfl
  refine ⟨?_, rfl⟩
  funext s
  simp [scalarAt, hOther]

/-
  Where all edits of a path ask for the same text, they change
  the scalar there once.
-/
theorem patch_scalar_eq
    {es : List Edit}
    {p : Path}
    {text : String}
    (hSame : ∀ e ∈ es, e.path = p → e.text = text)
    (s : Scalar) :
    (patch es).scalar p s =
      if ∃ e ∈ es, e.path = p then s.retext text else s := by
  induction es using List.reverseRecOn with
  | nil => simp [patch]
  | append_singleton es e ih =>
      have hBefore := ih fun f hMember =>
        hSame f (List.mem_append_left [e] hMember)
      rw [patch_append_scalar, hBefore, scalarAt]
      by_cases hHere : e.path = p
      · have hText : e.text = text :=
          hSame e (List.mem_append_right es List.mem_cons_self) hHere
        have hEdited : ∃ f ∈ es ++ [e], f.path = p :=
          ⟨e, List.mem_append_right es List.mem_cons_self, hHere⟩
        rw [if_pos hHere, hText, if_pos hEdited]
        split_ifs
        · exact Scalar.retext_retext s text
        · rfl
      · simp [hHere, or_and_right, exists_or]

/- Where no edit is, they change nothing. -/
theorem patch_scalar_of_no_edit
    {es : List Edit}
    {p : Path}
    (hNone : ∀ e ∈ es, e.path ≠ p)
    (s : Scalar) :
    (patch es).scalar p s = s := by
  have hSame : ∀ e ∈ es, e.path = p → e.text = s.text :=
    fun e hMember hPath => absurd hPath (hNone e hMember)
  rw [patch_scalar_eq hSame]
  apply if_neg
  intro hEdited
  rcases hEdited with ⟨e, hMember, hPath⟩
  exact hNone e hMember hPath

end Edit

namespace Tree

/- Patching scalars moves no node. -/
theorem lookup?_patched_scalars
    {P : Patch}
    (hExtra : ∀ p es, P.extra p es = [])
    (t : Tree)
    (p : Path) :
    (t.patched P).lookup? p =
      (t.lookup? p).map (patched (P.under p)) := by
  cases hNode : t.lookup? p with
  | some n => exact lookup?_patched P hNode
  | none =>
      cases hNew : (t.patched P).lookup? p with
      | none => rfl
      | some m =>
          rcases lookup?_patched_eq_some hNew with
            ⟨n, hOld, _⟩ | ⟨q, es, k, v, r, _, _, _, hAdded, _⟩
          · rw [hNode] at hOld
            cases hOld
          · rw [hExtra] at hAdded
            cases hAdded

theorem uniqueKeys_patched_scalars
    {P : Patch}
    {t : Tree}
    (hExtra : ∀ p es, P.extra p es = [])
    (hKeys : t.UniqueKeys) :
    (t.patched P).UniqueKeys := by
  apply uniqueKeys_patched hKeys
  intro p es hNode
  rw [hExtra, List.append_nil]
  exact hKeys.lookup hNode

/- An edit changes nothing when the scalar has the text already. -/
theorem rewriteScalar?_eq_none_iff
    {t : Tree}
    {e : Edit} :
    t.rewriteScalar? e = none ↔
      ∀ s, t.lookup? e.path = some (.scalar s) →
        s.text = e.text := by
  rw [rewriteScalar?, replaceAt?_eq_map, Option.map_eq_none_iff]
  cases hNode : t.lookup? e.path with
  | none => simp
  | some n => cases n <;> simp [withText?]

/- An edit of a patched tree is one edit more in the patch. -/
theorem rewriteScalar?_patched
    (t : Tree)
    (es : List Edit)
    (e : Edit) :
    ((t.patched (Edit.patch es)).rewriteScalar? e).getD
        (t.patched (Edit.patch es)) =
      t.patched (Edit.patch (es ++ [e])) := by
  have hLookup :=
    lookup?_patched_scalars (Edit.patch_extra es) t e.path
  rw [rewriteScalar?, replaceAt?_eq_map, hLookup]
  by_cases hScalar : ∃ s, t.lookup? e.path = some (.scalar s)
  · rcases hScalar with ⟨s, hNode⟩
    have hSet :
        (t.patched (Edit.patch es)).setAt e.path
            (.scalar (((Edit.patch es).scalar e.path s).retext
              e.text)) =
          t.patched (Edit.patch (es ++ [e])) := by
      rw [← setAt_patched (Edit.patch_append_agreeOutside es e)
        hNode]
      simp [patched, Edit.scalarAt]
    rw [← hSet]
    rw [hNode] at hLookup ⊢
    simp only [Option.map_some, patched, Patch.under_scalar,
      List.append_nil, Option.bind_some, withText?] at hLookup ⊢
    split_ifs with hSame
    · rw [Scalar.retext, if_pos hSame, setAt_self hLookup]
      rfl
    · rw [Scalar.retext, if_neg hSame]
      rfl
  · have hAgree : Patch.AgreeOn t (Edit.patch es)
        (Edit.patch (es ++ [e])) := by
      constructor
      · intro p s hNode
        have hOther : e.path ≠ p := by
          rintro rfl
          exact hScalar ⟨s, hNode⟩
        simp [Edit.scalarAt, hOther]
      · simp
    rw [← patched_congr hAgree]
    cases hNode : t.lookup? e.path with
    | none => rfl
    | some n =>
        cases n with
        | scalar s => exact absurd ⟨s, hNode⟩ hScalar
        | sequence xs => rfl
        | mapping fs => rfl

/- The last edit acts on what the others leave. -/
theorem rewriteScalars?_append
    (t : Tree)
    (es : List Edit)
    (e : Edit) :
    t.rewriteScalars? (es ++ [e]) =
      (((t.rewriteScalars? es).getD t).rewriteScalar? e).or
        (t.rewriteScalars? es) := by
  rw [rewriteScalars?, List.foldl_append, List.foldl_cons,
    List.foldl_nil, Option.orElse_eq_orElse, Option.orElse_eq_or]
  rfl

/- All edits together are one patch of the tree. -/
theorem rewriteScalars?_getD
    (t : Tree)
    (es : List Edit) :
    (t.rewriteScalars? es).getD t = t.patched (Edit.patch es) := by
  induction es using List.reverseRecOn with
  | nil => exact (patched_keep t).symm
  | append_singleton es e ih =>
      rw [rewriteScalars?_append, Option.getD_or, ih,
        rewriteScalar?_patched]

/- Further edits act on what the others leave. -/
theorem rewriteScalars?_append_getD
    (t : Tree)
    (es fs : List Edit) :
    (t.rewriteScalars? (es ++ fs)).getD t =
      (((t.rewriteScalars? es).getD t).rewriteScalars? fs).getD
        ((t.rewriteScalars? es).getD t) := by
  induction fs using List.reverseRecOn with
  | nil => simp [rewriteScalars?]
  | append_singleton fs e ih =>
      rw [← List.append_assoc, rewriteScalars?_append,
        rewriteScalars?_append, Option.getD_or, Option.getD_or, ih]

/- Edits change nothing when none of them changes anything by itself. -/
theorem rewriteScalars?_eq_none_iff
    {t : Tree}
    {es : List Edit} :
    t.rewriteScalars? es = none ↔
      ∀ e ∈ es, t.rewriteScalar? e = none := by
  induction es using List.reverseRecOn with
  | nil => simp [rewriteScalars?]
  | append_singleton es e ih =>
      rw [rewriteScalars?_append, Option.or_eq_none_iff,
        List.forall_mem_append, List.forall_mem_singleton]
      constructor
      · rintro ⟨hLast, hBefore⟩
        rw [hBefore] at hLast
        exact ⟨ih.mp hBefore, hLast⟩
      · rintro ⟨hBefore, hLast⟩
        rw [ih.mpr hBefore]
        exact ⟨hLast, rfl⟩

/- Patched trees differ from those before at patched scalars only. -/
theorem rewriteScalars?_getD_lookup?
    {t : Tree}
    {es : List Edit}
    {p : Path}
    {n : Tree}
    (hNode : t.lookup? p = some n) :
    ((t.rewriteScalars? es).getD t).lookup? p =
      some (n.patched ((Edit.patch es).under p)) := by
  rw [rewriteScalars?_getD]
  exact lookup?_patched _ hNode

theorem uniqueKeys_rewriteScalars?
    {t : Tree}
    (hKeys : t.UniqueKeys)
    (es : List Edit) :
    ((t.rewriteScalars? es).getD t).UniqueKeys := by
  rw [rewriteScalars?_getD]
  exact uniqueKeys_patched_scalars (Edit.patch_extra es) hKeys

end Tree

------------------------------------------------------------
-- Edits That Agree
------------------------------------------------------------

/- Edits of the same path ask for the same text. -/
def Edit.Consistent (es : List Edit) : Prop :=
  ∀ e ∈ es, ∀ f ∈ es, e.path = f.path → e.text = f.text

namespace Tree

variable {t : Tree} {es : List Edit} {p : Path} {s : Scalar}

/- A scalar gets the text that an edit asks for. -/
theorem lookup?_of_edit
    (hSame : Edit.Consistent es)
    {e : Edit}
    (hMember : e ∈ es)
    (hNode : t.lookup? e.path = some (.scalar s)) :
    ((t.rewriteScalars? es).getD t).lookup? e.path =
      some (.scalar (s.retext e.text)) := by
  have hScalar : (Edit.patch es).scalar e.path s =
      s.retext e.text := by
    rw [Edit.patch_scalar_eq fun f hOther hPath =>
      hSame f hOther e hMember hPath]
    exact if_pos ⟨e, hMember, rfl⟩
  rw [rewriteScalars?_getD_lookup? hNode]
  simp [patched, hScalar]

/- Other scalars are kept. -/
theorem lookup?_of_no_edit
    (hNone : ∀ e ∈ es, e.path ≠ p)
    (hNode : t.lookup? p = some (.scalar s)) :
    ((t.rewriteScalars? es).getD t).lookup? p =
      some (.scalar s) := by
  rw [rewriteScalars?_getD_lookup? hNode]
  simp [patched, Edit.patch_scalar_of_no_edit hNone]

/- The same edits in another order do the same. -/
theorem rewriteScalars?_getD_congr
    {fs : List Edit}
    (hSame : Edit.Consistent es)
    (hMembers : ∀ e, e ∈ es ↔ e ∈ fs) :
    (t.rewriteScalars? es).getD t = (t.rewriteScalars? fs).getD t := by
  rw [rewriteScalars?_getD, rewriteScalars?_getD]
  apply patched_congr
  refine ⟨?_, fun _ _ _ => rfl⟩
  intro p s _
  by_cases hEdited : ∃ e ∈ es, e.path = p
  · rcases hEdited with ⟨e, hMember, rfl⟩
    have hText : ∀ f ∈ es, f.path = e.path → f.text = e.text :=
      fun f hOther => hSame f hOther e hMember
    rw [Edit.patch_scalar_eq hText,
      Edit.patch_scalar_eq fun f hOther =>
        hText f ((hMembers f).mpr hOther)]
    simp only [hMembers]
  · push Not at hEdited
    rw [Edit.patch_scalar_of_no_edit hEdited,
      Edit.patch_scalar_of_no_edit fun e hMember =>
        hEdited e ((hMembers e).mpr hMember)]

/- The scalars of a rewritten tree are those before, patched. -/
theorem lookup?_rewritten_scalar_iff
    {s' : Scalar} :
    ((t.rewriteScalars? es).getD t).lookup? p = some (.scalar s') ↔
      ∃ s, t.lookup? p = some (.scalar s) ∧
        (Edit.patch es).scalar p s = s' := by
  rw [rewriteScalars?_getD,
    lookup?_patched_scalars (Edit.patch_extra es),
    Option.map_eq_some_iff]
  constructor
  · rintro ⟨n, hNode, hPatched⟩
    cases n with
    | scalar s =>
        exact ⟨s, hNode, by simpa [patched] using hPatched⟩
    | sequence xs => cases hPatched
    | mapping ms => cases hPatched
  · rintro ⟨s, hNode, rfl⟩
    exact ⟨_, hNode, by simp [patched]⟩

/- A scalar of a rewritten tree was kept or has the text of an edit. -/
theorem lookup?_rewritten_eq_scalar
    {s' : Scalar}
    (hSame : Edit.Consistent es)
    (hNode : ((t.rewriteScalars? es).getD t).lookup? p =
      some (.scalar s')) :
    ∃ s, t.lookup? p = some (.scalar s) ∧
      (s' = s ∨ ∃ e ∈ es, e.path = p ∧ s' = s.retext e.text) := by
  rcases lookup?_rewritten_scalar_iff.mp hNode with ⟨s, hOld, _⟩
  refine ⟨s, hOld, ?_⟩
  by_cases hEdited : ∃ e ∈ es, e.path = p
  · rcases hEdited with ⟨e, hMember, rfl⟩
    rw [lookup?_of_edit hSame hMember hOld, Option.some.injEq,
      Tree.scalar.injEq] at hNode
    exact Or.inr ⟨e, hMember, rfl, hNode.symm⟩
  · push Not at hEdited
    rw [lookup?_of_no_edit hEdited hOld, Option.some.injEq,
      Tree.scalar.injEq] at hNode
    exact Or.inl hNode.symm

theorem textAt?_eq_lookup?
    (t : Tree)
    (key : String) :
    t.textAt? key = (t.lookup? [.field key]).bind Tree.text? := by
  rw [Tree.textAt?, Tree.lookup?_singleton, Tree.get?_eq_child?]

/- The text under a key stays where no edit is. -/
theorem textAt?_rewriteScalars?
    {key : String}
    (hNone : ∀ e ∈ es, e.path ≠ [.field key]) :
    ((t.rewriteScalars? es).getD t).textAt? key =
      t.textAt? key := by
  rw [textAt?_eq_lookup?, textAt?_eq_lookup?]
  cases hNode : t.lookup? [.field key] with
  | none =>
      rw [rewriteScalars?_getD,
        lookup?_patched_scalars (Edit.patch_extra es), hNode]
      rfl
  | some n =>
      cases n with
      | scalar s => rw [lookup?_of_no_edit hNone hNode]
      | sequence xs =>
          rw [rewriteScalars?_getD_lookup? hNode]
          rfl
      | mapping ms =>
          rw [rewriteScalars?_getD_lookup? hNode]
          rfl

/- A rewritten tree differs from the one before. -/
theorem ne_of_rewriteScalars?_eq_some
    {t' : Tree}
    (hSame : Edit.Consistent es)
    (hDone : t.rewriteScalars? es = some t') :
    t' ≠ t := by
  have hSome : ¬ t.rewriteScalars? es = none := by
    rw [hDone]
    exact Option.some_ne_none t'
  rw [rewriteScalars?_eq_none_iff] at hSome
  push Not at hSome
  rcases hSome with ⟨e, hMember, hEdit⟩
  rw [ne_eq, rewriteScalar?_eq_none_iff] at hEdit
  push Not at hEdit
  rcases hEdit with ⟨s, hNode, hText⟩
  have hAfter := lookup?_of_edit hSame hMember hNode
  rw [hDone, Option.getD_some] at hAfter
  intro hKept
  rw [hKept, hNode, Option.some.injEq, Tree.scalar.injEq] at hAfter
  rw [hAfter] at hText
  exact hText (Scalar.retext_text s e.text)

/-
  Two trees differ at some paths only: all nodes with none of
  the paths at or below them are the same, sequences are as
  long as before, mappings have the same keys in the same
  order, and no node is new.
-/
structure SameOutside
    (edited : Path → Prop)
    (t t' : Tree) : Prop where
  node : ∀ p n, (∀ q, edited q → ¬ p <+: q) →
    t.lookup? p = some n → t'.lookup? p = some n
  sequence : ∀ p xs, t.lookup? p = some (.sequence xs) →
    ∃ ys, t'.lookup? p = some (.sequence ys) ∧
      ys.length = xs.length
  mapping : ∀ p ms, t.lookup? p = some (.mapping ms) →
    ∃ ns, t'.lookup? p = some (.mapping ns) ∧
      Mapping.keys ns = Mapping.keys ms
  nowhere : ∀ p, t.lookup? p = none → t'.lookup? p = none

/- Edits change a tree at their paths only. -/
theorem sameOutside_rewriteScalars? (t : Tree) (es : List Edit) :
    SameOutside (fun p => ∃ e ∈ es, e.path = p) t
      ((t.rewriteScalars? es).getD t) := by
  constructor
  · intro p n hOutside hNode
    have hAgree : Patch.AgreeOn n ((Edit.patch es).under p)
        Patch.keep := by
      constructor
      · intro q s _
        apply Edit.patch_scalar_of_no_edit
        intro e hMember hPath
        exact hOutside (p ++ q) ⟨e, hMember, hPath⟩
          (List.prefix_append p q)
      · intro q ms _
        rfl
    rw [rewriteScalars?_getD_lookup? hNode, patched_eq_self hAgree]
  · intro p xs hNode
    exact ⟨_, rewriteScalars?_getD_lookup? hNode,
      length_patchedItems _ 0 xs⟩
  · intro p ms hNode
    refine ⟨_, rewriteScalars?_getD_lookup? hNode, ?_⟩
    simp
  · intro p hNone
    rw [rewriteScalars?_getD,
      lookup?_patched_scalars (Edit.patch_extra es), hNone]
    rfl

end Tree

------------------------------------------------------------
-- Texts at Places
------------------------------------------------------------

namespace Tree

/- A scalar that is not null stands at one of some places. -/
structure HoldsText
    (Place : Path → Prop)
    (t : Tree)
    (p : Path)
    (s : Scalar) : Prop where
  place : Place p
  node : t.lookup? p = some (.scalar s)
  text : s.isNull = false

variable {t : Tree} {p : Path} {s s' : Scalar}
variable {Place : Path → Prop} {test : Cursor → Bool}

theorem scalar_eq_of_lookup?
    (hLeft : t.lookup? p = some (.scalar s))
    (hRight : t.lookup? p = some (.scalar s')) :
    s = s' := by
  rwa [hLeft, Option.some.injEq, Tree.scalar.injEq] at hRight

/-
  Where a test asks for a text at some places, the nodes that
  pass it are those with the texts there.
-/
theorem mem_nodesWhere_iff_holdsText
    (hKeys : t.UniqueKeys)
    (hTest : ∀ c : Cursor, c.IsOf t →
      (test c = true ↔
        c.node.text?.isSome = true ∧ Place c.path))
    {c : Cursor} :
    c ∈ t.nodesWhere test ↔
      c.IsOf t ∧ ∃ s, c.node = .scalar s ∧
        t.HoldsText Place c.path s := by
  rw [nodesWhere, List.mem_filter, Cursor.mem_descendants_iff]
  apply and_congr_right
  intro hOf
  have hNode := Cursor.IsOf.lookup?_path hOf hKeys
  rw [hTest c hOf, Option.isSome_iff_exists]
  constructor
  · rintro ⟨⟨text, hText⟩, hPlace⟩
    rcases text?_eq_some_iff.mp hText with ⟨s, hScalar, hNull, _⟩
    exact ⟨s, hScalar, hPlace, hScalar ▸ hNode, hNull⟩
  · rintro ⟨s, hScalar, hHolds⟩
    exact ⟨⟨s.text, text?_eq_some_iff.mpr
      ⟨s, hScalar, hHolds.text, rfl⟩⟩, hHolds.place⟩

end Tree

------------------------------------------------------------
-- Reported Changes
------------------------------------------------------------

namespace Visit

variable {v : Visit} {t : Tree} {es : List Edit}

/- A visit that rewrites a document makes another one of it. -/
def Truthful (v : Visit) (t : Tree) : Prop :=
  ∀ t', v.root? = some t' → t' ≠ t

theorem truthful_of_root?_eq_none (hNone : v.root? = none) :
    v.Truthful t := by
  intro t' hSome
  rw [hNone] at hSome
  cases hSome

theorem Truthful.isSome_iff (hTruthful : v.Truthful t) :
    v.root?.isSome = true ↔ v.result t ≠ t := by
  unfold Truthful at hTruthful
  unfold result
  cases hRoot : v.root? with
  | none => simp
  | some t' => simpa using hTruthful t' hRoot

/- Edits that agree make another document of the one they rewrite. -/
theorem truthful_rewritten (hSame : Edit.Consistent es) :
    (rewritten (t.rewriteScalars? es)).Truthful t := by
  intro t' hDone
  exact Tree.ne_of_rewriteScalars?_eq_some hSame hDone

end Visit

end ManifestRecipes
