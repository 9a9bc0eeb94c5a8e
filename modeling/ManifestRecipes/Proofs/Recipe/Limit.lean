import ManifestRecipes.Proofs.Findings
import ManifestRecipes.Proofs.Quantity
import ManifestRecipes.Proofs.Recipe.Visit
import ManifestRecipes.Proofs.Workload
import ManifestRecipes.Recipe.Options

/-
  Lowering the quantities above a limit.

  What is lowered is what is found: the quantities of the
  containers that are above the limit.  Each is lowered to the
  largest whole count of its own unit that is not above, so
  that nothing is left to be found or lowered afterwards.

  Key definitions include:
    * `QuantityLimit.Selects`
    * `QuantityLimit.Above`
    * `QuantityLimit.Lowers`
    * `Tree.Rewrites`
    * `QuantityLimit.Agree`
    * `QuantityLimit.Partners`

  Main declarations:
    * `QuantityLimit.mem_exceeding_iff`
    * `QuantityLimit.isError_exceeding_iff`
    * `QuantityLimit.rewrites_iff_above`
    * `QuantityLimit.exceeding_capped`
    * `QuantityLimit.cap_agrees_with_find`
-/

namespace ManifestRecipes

/- A scalar of a tree has become another one. -/
structure Tree.Rewrites
    (t t' : Tree)
    (p : Path)
    (s s' : Scalar) : Prop where
  before : t.lookup? p = some (.scalar s)
  after : t'.lookup? p = some (.scalar s')
  other : s' ≠ s

namespace QuantityLimit

variable {l : QuantityLimit} {t : Tree} {p : Path}
variable {s s' : Scalar} {q : Quantity} {c : Cursor}

------------------------------------------------------------
-- Quantities Above the Limit
------------------------------------------------------------

/- The scalar at a path is a quantity to which a limit applies. -/
def Selects
    (l : QuantityLimit)
    (t : Tree)
    (p : Path)
    (s : Scalar) : Prop :=
  t.HoldsText (Workload.QuantityPath l.bound l.kind t) p s

/- The quantity at a path is above the limit. -/
structure Above
    (l : QuantityLimit)
    (t : Tree)
    (p : Path)
    (s : Scalar)
    (q : Quantity) : Prop where
  selects : l.Selects t p s
  read : Quantity.read s.text = .ok q
  exceeds : l.limit.absolute < q.absolute

theorem mem_nodesWhere_iff (hKeys : t.UniqueKeys) :
    c ∈ t.nodesWhere (Workload.isQuantity l.bound l.kind) ↔
      c.IsOf t ∧ ∃ s, c.node = .scalar s ∧ l.Selects t c.path s := by
  exact Tree.mem_nodesWhere_iff_holdsText hKeys
    fun _ => Workload.isQuantity_iff

theorem quantityAt_eq
    (hNode : c.node = .scalar s)
    (hText : s.isNull = false) :
    quantityAt c =
      (Quantity.read s.text).map fun q => (c, q) := by
  have hRead : c.node.text? = some s.text :=
    Tree.text?_eq_some_iff.mpr ⟨s, hNode, hText, rfl⟩
  rw [quantityAt, hRead, Option.getD_some]
  cases Quantity.read s.text <;> rfl

/- The quantities found above the limit are those above it. -/
theorem mem_exceeding_iff
    {above : List (Cursor × Quantity)}
    (hKeys : t.UniqueKeys)
    (hDone : l.exceeding t = .ok above) :
    (c, q) ∈ above ↔
      c.IsOf t ∧ ∃ s, c.node = .scalar s ∧
        l.Above t c.path s q := by
  rcases exists_of_bind_eq_ok hDone with ⟨all, hAll, hAbove⟩
  cases hAbove
  rw [List.mem_filter, mem_iff_of_mapM_eq_ok hAll]
  simp only [Quantity.exceeds, decide_eq_true_eq]
  constructor
  · rintro ⟨⟨d, hMember, hRead⟩, hExceeds⟩
    rcases (mem_nodesWhere_iff hKeys).mp hMember with
      ⟨hOf, s, hNode, hSelects⟩
    rw [quantityAt_eq hNode hSelects.text] at hRead
    cases hQuantity : Quantity.read s.text with
    | error f =>
        rw [hQuantity] at hRead
        cases hRead
    | ok r =>
        rw [hQuantity] at hRead
        cases hRead
        exact ⟨hOf, s, hNode, hSelects, hQuantity, hExceeds⟩
  · rintro ⟨hOf, s, hNode, hSelects, hRead, hExceeds⟩
    refine ⟨⟨c, ?_, ?_⟩, hExceeds⟩
    · exact (mem_nodesWhere_iff hKeys).mpr
        ⟨hOf, s, hNode, hSelects⟩
    · rw [quantityAt_eq hNode hSelects.text, hRead]
      rfl

/- A quantity above the limit is found there. -/
theorem Above.exists_mem
    {above : List (Cursor × Quantity)}
    (hAbove : l.Above t p s q)
    (hKeys : t.UniqueKeys)
    (hDone : l.exceeding t = .ok above) :
    ∃ c, (c, q) ∈ above ∧ c.path = p := by
  rcases Cursor.exists_isOf_of_lookup? hAbove.selects.node with
    ⟨c, hOf, rfl, hNode⟩
  exact ⟨c, (mem_exceeding_iff hKeys hDone).mpr
    ⟨hOf, s, hNode, hAbove⟩, rfl⟩

/- Looking for them fails where reading the quantities does. -/
theorem exceeding_eq_error_iff {f : Quantity.Fault} :
    l.exceeding t = .error f ↔ l.quantities t = .error f := by
  unfold exceeding
  cases l.quantities t <;> simp [bind, Except.bind]

/- That is where one of the scalars is no quantity. -/
theorem isError_exceeding_iff (hKeys : t.UniqueKeys) :
    (∃ f, l.exceeding t = .error f) ↔
      ∃ p s, l.Selects t p s ∧
        ¬ ∃ n u, Quantity.Written s.text n u := by
  simp only [exceeding_eq_error_iff]
  rw [quantities, mapM_isError_iff]
  have hFails : ∀ (c : Cursor) (s : Scalar),
      c.node = .scalar s → s.isNull = false →
        ((∃ f, quantityAt c = .error f) ↔
          ¬ ∃ n u, Quantity.Written s.text n u) := by
    intro c s hNode hText
    rw [← Quantity.isError_read_iff, quantityAt_eq hNode hText]
    cases Quantity.read s.text <;> simp [Except.map]
  constructor
  · rintro ⟨c, hMember, hError⟩
    rcases (mem_nodesWhere_iff hKeys).mp hMember with
      ⟨_, s, hNode, hSelects⟩
    exact ⟨c.path, s, hSelects,
      (hFails c s hNode hSelects.text).mp hError⟩
  · rintro ⟨p, s, hSelects, hUnwritten⟩
    rcases Cursor.exists_isOf_of_lookup? hSelects.node with
      ⟨c, hOf, rfl, hNode⟩
    exact ⟨c, (mem_nodesWhere_iff hKeys).mpr
      ⟨hOf, s, hNode, hSelects⟩,
      (hFails c s hNode hSelects.text).mpr hUnwritten⟩

------------------------------------------------------------
-- Lowered Quantities
------------------------------------------------------------

/-
  A text with a quantity above the limit gives way to one with
  the largest whole count of the same unit that is not above.
-/
def Lowers (l : QuantityLimit) (before after : String) : Prop :=
  ∃ u n m, Quantity.Written before n u ∧
    l.limit.absolute < n * u.scale ∧
    Quantity.read after = .ok ⟨m * u.scale, u⟩ ∧
    m * u.scale ≤ l.limit.absolute ∧
    ∀ k, k * u.scale ≤ l.limit.absolute → k ≤ m

def loweredText (l : QuantityLimit) (q : Quantity) : String :=
  (l.limit.inUnit q.unit).text

/- A quantity above the limit is lowered. -/
theorem Above.lowers (hAbove : l.Above t p s q) :
    l.Lowers s.text (l.loweredText q) := by
  rcases Quantity.read_eq_ok_iff.mp hAbove.read with
    ⟨n, hWritten, hAbsolute⟩
  have hCount : ∀ k, k ≤ (l.limit.inUnit q.unit).relative ↔
      k * q.unit.scale ≤ l.limit.absolute :=
    fun _ => Quantity.le_relative_iff
  have hExceeds : l.limit.absolute < n * q.unit.scale :=
    hAbsolute ▸ hAbove.exceeds
  have hSmaller : (l.limit.inUnit q.unit).relative < n := by
    by_contra hLarge
    have hWithin := (hCount n).mp (by omega)
    omega
  have hBound : n < Nat.pow 2 64 := by
    rcases hWritten with ⟨_, _, _, _, _, _, hBound, _⟩
    exact hBound
  refine ⟨q.unit, n, (l.limit.inUnit q.unit).relative, hWritten,
    hExceeds, ?_, (hCount _).mp le_rfl, fun k => (hCount k).mpr⟩
  exact Quantity.read_eq_ok_iff.mpr ⟨_,
    Quantity.written_text (hSmaller.trans hBound) q.unit, rfl⟩

/- A lowered quantity is not above the limit. -/
theorem Lowers.read_le
    {before after : String}
    (hLowers : l.Lowers before after) :
    ∃ r, Quantity.read after = .ok r ∧
      r.absolute ≤ l.limit.absolute := by
  rcases hLowers with ⟨u, _, m, _, _, hRead, hWithin, _⟩
  exact ⟨_, hRead, hWithin⟩

/- Its text is another one. -/
theorem Above.loweredText_ne (hAbove : l.Above t p s q) :
    l.loweredText q ≠ s.text := by
  intro hSame
  rcases hAbove.lowers.read_le with ⟨r, hRead, hWithin⟩
  rw [hSame, hAbove.read, Except.ok.injEq] at hRead
  have hExceeds := hAbove.exceeds
  rw [hRead] at hExceeds
  omega

------------------------------------------------------------
-- The Document With the Quantities Lowered
------------------------------------------------------------

section Capped

variable {above : List (Cursor × Quantity)}

/- Each place is lowered in one way. -/
theorem consistent_capEdit
    (hKeys : t.UniqueKeys)
    (hDone : l.exceeding t = .ok above) :
    Edit.Consistent (above.map l.capEdit) := by
  intro e hLeft f hRight hPath
  rcases List.mem_map.mp hLeft with ⟨⟨c, q⟩, hMember, rfl⟩
  rcases List.mem_map.mp hRight with ⟨⟨d, r⟩, hMember', rfl⟩
  rcases (mem_exceeding_iff hKeys hDone).mp hMember with
    ⟨_, s, _, hAbove⟩
  rcases (mem_exceeding_iff hKeys hDone).mp hMember' with
    ⟨_, s', _, hAbove'⟩
  have hPaths : c.path = d.path := hPath
  have hSame : s = s' :=
    Tree.scalar_eq_of_lookup? hAbove.selects.node
      (hPaths ▸ hAbove'.selects.node)
  have hRead := hAbove'.read
  rw [← hSame, hAbove.read, Except.ok.injEq] at hRead
  subst hRead
  rfl

/- The edits lower the quantities above the limit. -/
theorem mem_capEdit_iff
    (hKeys : t.UniqueKeys)
    (hDone : l.exceeding t = .ok above)
    {e : Edit} :
    e ∈ above.map l.capEdit ↔
      ∃ s q, l.Above t e.path s q ∧ e.text = l.loweredText q := by
  rw [List.mem_map]
  constructor
  · rintro ⟨⟨c, q⟩, hMember, rfl⟩
    rcases (mem_exceeding_iff hKeys hDone).mp hMember with
      ⟨_, s, _, hAbove⟩
    exact ⟨s, q, hAbove, rfl⟩
  · rintro ⟨s, q, hAbove, hText⟩
    rcases hAbove.exists_mem hKeys hDone with
      ⟨c, hMember, hPath⟩
    refine ⟨(c, q), hMember, ?_⟩
    rw [capEdit, hPath]
    exact congrArg (Edit.mk e.path) hText.symm

/- The document after the edits. -/
abbrev capped
    (l : QuantityLimit)
    (t : Tree)
    (above : List (Cursor × Quantity)) : Tree :=
  (t.rewriteScalars? (above.map l.capEdit)).getD t

/- The rewritten scalars are the quantities above the limit. -/
theorem rewrites_iff_above
    (hKeys : t.UniqueKeys)
    (hDone : l.exceeding t = .ok above) :
    t.Rewrites (l.capped t above) p s s' ↔
      ∃ q, l.Above t p s q ∧ s' = s.retext (l.loweredText q) := by
  have hSame := consistent_capEdit hKeys hDone
  constructor
  · rintro ⟨hBefore, hAfter, hOther⟩
    rcases Tree.lookup?_rewritten_eq_scalar hSame hAfter with
      ⟨s₀, hNode, hCases⟩
    rw [hBefore, Option.some.injEq, Tree.scalar.injEq] at hNode
    subst hNode
    rcases hCases with hKept | ⟨e, hMember, rfl, hText⟩
    · exact absurd hKept hOther
    · rcases (mem_capEdit_iff hKeys hDone).mp hMember with
        ⟨s₁, q, hAbove, hEdit⟩
      rw [Tree.scalar_eq_of_lookup? hBefore hAbove.selects.node]
        at hText ⊢
      exact ⟨q, hAbove, hEdit ▸ hText⟩
  · rintro ⟨q, hAbove, rfl⟩
    have hEdit : ⟨p, l.loweredText q⟩ ∈ above.map l.capEdit :=
      (mem_capEdit_iff hKeys hDone).mpr ⟨s, q, hAbove, rfl⟩
    refine ⟨hAbove.selects.node,
      Tree.lookup?_of_edit hSame hEdit hAbove.selects.node, ?_⟩
    intro hKept
    have hText := Scalar.retext_text s (l.loweredText q)
    rw [hKept] at hText
    exact hAbove.loweredText_ne hText.symm

/- Scalars are rewritten where they are above the limit. -/
theorem exists_rewrites_iff
    (hKeys : t.UniqueKeys)
    (hDone : l.exceeding t = .ok above) :
    (∃ s', t.Rewrites (l.capped t above) p s s') ↔
      ∃ q, l.Above t p s q := by
  simp only [rewrites_iff_above hKeys hDone]
  constructor
  · rintro ⟨_, q, hAbove, _⟩
    exact ⟨q, hAbove⟩
  · rintro ⟨q, hAbove⟩
    exact ⟨_, q, hAbove, rfl⟩

/- So the edits are at these places. -/
theorem exists_capEdit_iff
    (hKeys : t.UniqueKeys)
    (hDone : l.exceeding t = .ok above) :
    (∃ e ∈ above.map l.capEdit, e.path = p) ↔
      ∃ s q, l.Above t p s q := by
  constructor
  · rintro ⟨e, hMember, rfl⟩
    rcases (mem_capEdit_iff hKeys hDone).mp hMember with
      ⟨s, q, hAbove, _⟩
    exact ⟨s, q, hAbove⟩
  · rintro ⟨s, q, hAbove⟩
    exact ⟨⟨p, l.loweredText q⟩,
      (mem_capEdit_iff hKeys hDone).mpr ⟨s, q, hAbove, rfl⟩, rfl⟩

/- The edits keep the kind of a document. -/
theorem textAt?_capped
    (hKeys : t.UniqueKeys)
    (hDone : l.exceeding t = .ok above) :
    (l.capped t above).textAt? "kind" = t.textAt? "kind" := by
  apply Tree.textAt?_rewriteScalars?
  intro e hMember hPath
  rcases (mem_capEdit_iff hKeys hDone).mp hMember with
    ⟨_, _, hAbove, _⟩
  exact Workload.not_quantityPath_kind
    (hPath ▸ hAbove.selects.place)

/-
  The scalars that are selected afterwards were selected
  before, and are above the limit no longer.
-/
theorem Selects.of_capped
    (hSelects : l.Selects (l.capped t above) p s')
    (hKeys : t.UniqueKeys)
    (hDone : l.exceeding t = .ok above) :
    ∃ r, Quantity.read s'.text = .ok r ∧
      r.absolute ≤ l.limit.absolute := by
  have hSame := consistent_capEdit hKeys hDone
  have hPlace : Workload.QuantityPath l.bound l.kind t p :=
    (Workload.QuantityPath.congr (textAt?_capped hKeys hDone)).mp
      hSelects.place
  rcases Tree.lookup?_rewritten_eq_scalar hSame hSelects.node with
    ⟨s, hNode, rfl | ⟨e, hMember, rfl, rfl⟩⟩
  · have hBefore : l.Selects t p s' :=
      ⟨hPlace, hNode, hSelects.text⟩
    cases hRead : Quantity.read s'.text with
    | error f =>
        have hFails : ∃ f, l.exceeding t = .error f :=
          (isError_exceeding_iff hKeys).mpr ⟨p, s', hBefore,
            Quantity.isError_read_iff.mp ⟨f, hRead⟩⟩
        rcases hFails with ⟨f, hError⟩
        rw [hError] at hDone
        cases hDone
    | ok q =>
        refine ⟨q, rfl, ?_⟩
        by_contra hLarge
        have hAbove : l.Above t p s' q :=
          ⟨hBefore, hRead, by omega⟩
        have hRewrites := (rewrites_iff_above hKeys hDone).mpr
          ⟨q, hAbove, rfl⟩
        have hAfter := hRewrites.after
        rw [hSelects.node, Option.some.injEq, Tree.scalar.injEq]
          at hAfter
        exact hRewrites.other hAfter.symm
  · rcases (mem_capEdit_iff hKeys hDone).mp hMember with
      ⟨s₀, q, hAbove, hText⟩
    rw [Scalar.retext_text, hText]
    exact hAbove.lowers.read_le

/- Nothing is above the limit afterwards. -/
theorem exceeding_capped
    (hKeys : t.UniqueKeys)
    (hDone : l.exceeding t = .ok above) :
    l.exceeding (l.capped t above) = .ok [] := by
  have hKeys' := Tree.uniqueKeys_rewriteScalars? hKeys
    (above.map l.capEdit)
  cases hAgain : l.exceeding (l.capped t above) with
  | error f =>
      rcases (isError_exceeding_iff hKeys').mp ⟨f, hAgain⟩ with
        ⟨p, s, hSelects, hUnwritten⟩
      rcases hSelects.of_capped hKeys hDone with ⟨r, hRead, _⟩
      rcases Quantity.read_eq_ok_iff.mp hRead with
        ⟨n, hWritten, _⟩
      exact absurd ⟨n, r.unit, hWritten⟩ hUnwritten
  | ok more =>
      rw [Except.ok.injEq, List.eq_nil_iff_forall_not_mem]
      rintro ⟨c, q⟩ hMember
      rcases (mem_exceeding_iff hKeys' hAgain).mp hMember with
        ⟨_, s, _, hAbove⟩
      rcases hAbove.selects.of_capped hKeys hDone with
        ⟨r, hRead, hWithin⟩
      have hExceeds := hAbove.exceeds
      rw [hAbove.read, Except.ok.injEq] at hRead
      rw [hRead] at hExceeds
      omega

end Capped

------------------------------------------------------------
-- Finding and Lowering
------------------------------------------------------------

/-
  Two visits of a document agree: one rewrites the scalars at
  the paths that the other makes findings about.  These are
  the quantities above the limit, each is lowered, and all
  else in the document stays as it is.
-/
structure Agree
    (l : QuantityLimit)
    (t : Tree)
    (lowered found : Visit) : Prop where
  flagged : ∀ p,
    (∃ f ∈ found.findings.entries, f.path = p) ↔
      ∃ s s', t.Rewrites (lowered.result t) p s s'
  message : ∀ f ∈ found.findings.entries, f.message = l.message
  above : ∀ p s,
    (∃ s', t.Rewrites (lowered.result t) p s s') ↔
      ∃ q, l.Above t p s q
  lowers : ∀ p s s',
    t.Rewrites (lowered.result t) p s s' →
      l.Lowers s.text s'.text
  others : t.SameOutside
    (fun p => ∃ s s', t.Rewrites (lowered.result t) p s s')
    (lowered.result t)
  silent : lowered.findings = Findings.empty
  unwritten : found.root? = none

/- Lowering rewrites what is above the limit. -/
theorem cap_eq_ok
    {above : List (Cursor × Quantity)}
    (hDone : l.exceeding t = .ok above) :
    l.cap t = .ok
      (Visit.rewritten
        (t.rewriteScalars? (above.map l.capEdit))) := by
  rw [cap, hDone]
  rfl

/- Finding reports what is above the limit. -/
theorem find_eq_ok
    {above : List (Cursor × Quantity)}
    (hDone : l.exceeding t = .ok above) :
    l.find t = .ok
      (Visit.found
        (Findings.ofNodes (above.map Prod.fst)
          fun _ => some l.message)) := by
  rw [find, hDone]
  rfl

theorem visits_eq_error_iff {f : Quantity.Fault} :
    (l.cap t = .error f ↔ l.exceeding t = .error f) ∧
      (l.find t = .error f ↔ l.exceeding t = .error f) := by
  unfold cap find
  cases l.exceeding t <;> simp [bind, Except.bind]

theorem visits_eq_unchanged (hDone : l.exceeding t = .ok []) :
    l.find t = .ok Visit.unchanged ∧
      l.cap t = .ok Visit.unchanged := by
  rw [find_eq_ok hDone, cap_eq_ok hDone]
  exact ⟨rfl, rfl⟩

/- Findings are made at the places above the limit. -/
theorem exists_finding_iff
    {above : List (Cursor × Quantity)}
    (hKeys : t.UniqueKeys)
    (hDone : l.exceeding t = .ok above) :
    (∃ f ∈ (Findings.ofNodes (above.map Prod.fst)
        fun _ => some l.message).entries, f.path = p) ↔
      ∃ s q, l.Above t p s q := by
  refine Visit.flags_found_iff.trans ?_
  simp only [List.mem_map]
  constructor
  · rintro ⟨_, ⟨⟨c, q⟩, hMember, rfl⟩, rfl⟩
    rcases (mem_exceeding_iff hKeys hDone).mp hMember with
      ⟨_, s, _, hAbove⟩
    exact ⟨s, q, hAbove⟩
  · rintro ⟨s, q, hAbove⟩
    rcases hAbove.exists_mem hKeys hDone with
      ⟨c, hMember, hPath⟩
    exact ⟨c, ⟨(c, q), hMember, rfl⟩, hPath⟩

/- Both visits agree where neither fails. -/
theorem agree_of_exceeding
    {above : List (Cursor × Quantity)}
    (hKeys : t.UniqueKeys)
    (hDone : l.exceeding t = .ok above) :
    l.Agree t
      (Visit.rewritten (t.rewriteScalars? (above.map l.capEdit)))
      (Visit.found
        (Findings.ofNodes (above.map Prod.fst)
          fun _ => some l.message)) where
  flagged := by
    intro p
    exact (exists_finding_iff hKeys hDone).trans
      (exists_congr fun s => (exists_rewrites_iff hKeys hDone).symm)
  message := by
    intro f hMember
    rcases Findings.mem_ofNodes_iff.mp hMember with
      ⟨_, _, _, hMessage⟩
    exact (Option.some.inj hMessage).symm
  above := by
    intro p s
    exact exists_rewrites_iff hKeys hDone
  lowers := by
    intro p s s' hRewrites
    rcases (rewrites_iff_above hKeys hDone).mp hRewrites with
      ⟨q, hAbove, rfl⟩
    rw [Scalar.retext_text]
    exact hAbove.lowers
  others := by
    have hEdits : (fun p => ∃ e ∈ above.map l.capEdit, e.path = p) =
        fun p => ∃ s s', t.Rewrites (l.capped t above) p s s' := by
      funext p
      rw [eq_iff_iff, exists_capEdit_iff hKeys hDone]
      exact exists_congr fun s =>
        (exists_rewrites_iff hKeys hDone).symm
    have hOthers :=
      Tree.sameOutside_rewriteScalars? t (above.map l.capEdit)
    rw [hEdits] at hOthers
    exact hOthers
  silent := rfl
  unwritten := rfl

/-
  The options of a limit make a recipe when the limit is read,
  and it is the same limit whether it is for finding or for
  lowering.
-/
theorem build_eq_ok_iff
    {o : QuantityOptions}
    {r : Recipe} :
    (Options.build (.capQuantity o) = .ok r ↔
      ∃ limit, Quantity.read o.limit = .ok limit ∧
        r = .capQuantity ⟨o.bound, o.kind, o.limit, limit⟩) ∧
    (Options.build (.findQuantity o) = .ok r ↔
      ∃ limit, Quantity.read o.limit = .ok limit ∧
        r = .findQuantity ⟨o.bound, o.kind, o.limit, limit⟩) := by
  unfold Options.build Options.quantityLimit
  cases hRead : Quantity.read o.limit <;>
    simp [hRead, bind, Except.bind, Except.mapError, eq_comm]

/-
  One recipe lowers what another finds.  Both fail on the same
  documents, in which some quantity that the limit applies to is
  not a written one.  On others they agree, and afterwards
  nothing is left to be found or lowered.
-/
structure Partners
    (cap find : Recipe)
    (l : QuantityLimit)
    (t : Tree) : Prop where
  fault : ∀ f, cap.visit t = .error f ↔ find.visit t = .error f
  fails_iff : (∃ f, cap.visit t = .error f) ↔
    ∃ p s, l.Selects t p s ∧ ¬ ∃ n u, Quantity.Written s.text n u
  agree : ∀ lowered found,
    cap.visit t = .ok lowered → find.visit t = .ok found →
      l.Agree t lowered found
  settled : ∀ lowered found,
    cap.visit t = .ok lowered → find.visit t = .ok found →
      find.visit (lowered.result t) = .ok Visit.unchanged ∧
      cap.visit (lowered.result t) = .ok Visit.unchanged

/- Lowering is a partner of finding with the same options. -/
theorem cap_agrees_with_find
    (o : QuantityOptions)
    (cap find : Recipe)
    (t : Tree)
    (hCap : Options.build (.capQuantity o) = .ok cap)
    (hFind : Options.build (.findQuantity o) = .ok find)
    (hKeys : t.UniqueKeys) :
    ∃ limit, Quantity.read o.limit = .ok limit ∧
      Partners cap find ⟨o.bound, o.kind, o.limit, limit⟩ t := by
  rcases build_eq_ok_iff.1.mp hCap with ⟨limit, hLimit, rfl⟩
  rcases build_eq_ok_iff.2.mp hFind with ⟨limit', hLimit', rfl⟩
  rw [hLimit, Except.ok.injEq] at hLimit'
  subst hLimit'
  let l : QuantityLimit := ⟨o.bound, o.kind, o.limit, limit⟩
  have hBoth : ∀ lowered found,
      (Recipe.capQuantity l).visit t = .ok lowered →
      (Recipe.findQuantity l).visit t = .ok found →
        l.Agree t lowered found ∧
        l.find (lowered.result t) = .ok Visit.unchanged ∧
        l.cap (lowered.result t) = .ok Visit.unchanged := by
    intro lowered found hLowered hFound
    cases hDone : l.exceeding t with
    | error f =>
        have hError := visits_eq_error_iff.1.mpr hDone
        rw [Recipe.visit, hError] at hLowered
        cases hLowered
    | ok above =>
        rw [Recipe.visit, cap_eq_ok hDone, Except.ok.injEq]
          at hLowered
        rw [Recipe.visit, find_eq_ok hDone, Except.ok.injEq]
          at hFound
        subst hLowered
        subst hFound
        exact ⟨agree_of_exceeding hKeys hDone,
          visits_eq_unchanged (exceeding_capped hKeys hDone)⟩
  refine ⟨limit, hLimit, ?_, ?_, ?_, ?_⟩
  · intro f
    exact visits_eq_error_iff.1.trans visits_eq_error_iff.2.symm
  · rw [← isError_exceeding_iff hKeys]
    exact exists_congr fun f => visits_eq_error_iff.1
  · intro lowered found hLowered hFound
    exact (hBoth lowered found hLowered hFound).1
  · intro lowered found hLowered hFound
    exact (hBoth lowered found hLowered hFound).2

/-
  Limits of memory in two units, of which one is no multiple of
  the limit, and a third one within it.
-/
theorem cap_agrees_with_find_pod :
    let o : QuantityOptions := ⟨.limits, .memory, "64Mi"⟩
    let limit : Quantity := ⟨67108864000, .mebi⟩
    let l : QuantityLimit := ⟨.limits, .memory, "64Mi", limit⟩
    let container (text : String) : Tree :=
      .mapping [("resources", .mapping [("limits",
        .mapping [("memory", .string text)])])]
    let pod (texts : List String) : Tree :=
      .mapping [("kind", .string "Pod"),
        ("spec", .mapping [("containers",
          .sequence (texts.map container))])]
    let t := pod ["128Mi", "70000K", "1Ki"]
    let p (i : Nat) : Path :=
      [.field "spec", .field "containers", .index i,
        .field "resources", .field "limits", .field "memory"]
    Options.build (.capQuantity o) = .ok (.capQuantity l) ∧
    Options.build (.findQuantity o) = .ok (.findQuantity l) ∧
    t.UniqueKeys ∧
    Partners (.capQuantity l) (.findQuantity l) l t ∧
    l.cap t =
      .ok (Visit.rewritten (some (pod ["64Mi", "67108k", "1Ki"]))) ∧
    l.find t =
      .ok (Visit.found (Findings.ofList
        [⟨p 0, l.message⟩, ⟨p 1, l.message⟩])) := by
  intro o limit l container pod t p
  have hLimit : Quantity.read o.limit = .ok limit :=
    eq_ok_of_toOption (by decide +kernel)
  have hCap : Options.build (.capQuantity o) = .ok (.capQuantity l) :=
    build_eq_ok_iff.1.mpr ⟨limit, hLimit, rfl⟩
  have hFind :
      Options.build (.findQuantity o) = .ok (.findQuantity l) :=
    build_eq_ok_iff.2.mpr ⟨limit, hLimit, rfl⟩
  have hKeys : t.UniqueKeys := by decide +kernel
  rcases cap_agrees_with_find o _ _ t hCap hFind hKeys with
    ⟨limit', hLimit', hPartners⟩
  rw [hLimit, Except.ok.injEq] at hLimit'
  subst hLimit'
  exact ⟨hCap, hFind, hKeys, hPartners,
    eq_ok_of_toOption (by decide +kernel),
    eq_ok_of_toOption (by decide +kernel)⟩

end QuantityLimit

end ManifestRecipes
