import ManifestRecipes.Proofs.Image.Name
import ManifestRecipes.Proofs.Recipe.Visit
import ManifestRecipes.Proofs.Workload
import ManifestRecipes.Recipe.ContainerImage
import ManifestRecipes.Recipe.Options

/-
  Updating the images of containers twice.

  A second visit reads the references that the first has
  written.  Which nodes are images does not change between
  them, so everything depends on whether each new reference is
  accepted again and changes again.

  Key definitions include:
    * `ImageUpdate.updated`
    * `ImageUpdate.Settles`
    * `ImageUpdate.Accepts`

  Main declarations:
    * `ImageUpdate.settles_of_separable`
    * `ImageUpdate.visit_eq_unchanged_iff`
    * `ImageUpdate.accepts_result_iff`
    * `ImageUpdate.unchanged_again_iff_settles`
-/

namespace ManifestRecipes

------------------------------------------------------------
-- Images of Containers
------------------------------------------------------------

namespace ContainerImage

theorem nameAt_eq
    {c : Cursor}
    {s : Scalar}
    (hNode : c.node = .scalar s)
    (hNull : s.isNull = false) :
    nameAt c = ImageName.ofText s.text := by
  rw [nameAt, Tree.text?_eq_some_iff.mpr ⟨s, hNode, hNull, rfl⟩]
  rfl

/- The images are the texts at their places. -/
theorem mem_all_iff
    {withInit : Bool}
    {t : Tree}
    (hKeys : t.UniqueKeys)
    {c : Cursor} :
    c ∈ all withInit t ↔
      c.IsOf t ∧ ∃ s, c.node = .scalar s ∧
        t.HoldsText (Workload.ImagePath withInit t) c.path s := by
  exact Tree.mem_nodesWhere_iff_holdsText hKeys
    fun _ => Workload.isImage_iff

/- Every text at such a place is an image. -/
theorem exists_mem_all
    {withInit : Bool}
    {t : Tree}
    {p : Path}
    {s : Scalar}
    (hKeys : t.UniqueKeys)
    (hHolds : t.HoldsText (Workload.ImagePath withInit t) p s) :
    ∃ c ∈ all withInit t, c.path = p ∧ c.node = .scalar s := by
  rcases Cursor.exists_isOf_of_lookup? hHolds.node with
    ⟨c, hOf, rfl, hScalar⟩
  exact ⟨c, (mem_all_iff hKeys).mpr ⟨hOf, s, hScalar, hHolds⟩,
    rfl, hScalar⟩

/- The accepted images are those with a text that is accepted. -/
theorem mem_accepted_iff
    {withInit : Bool}
    {pattern : ImagePattern}
    {t : Tree}
    (hKeys : t.UniqueKeys)
    {c : Cursor} :
    c ∈ accepted withInit pattern t ↔
      c.IsOf t ∧ ∃ s, c.node = .scalar s ∧
        t.HoldsText (Workload.ImagePath withInit t) c.path s ∧
          pattern.accepts (ImageName.ofText s.text) = true := by
  rw [accepted, List.mem_filter, mem_all_iff hKeys]
  constructor
  · rintro ⟨⟨hOf, s, hScalar, hHolds⟩, hPattern⟩
    rw [nameAt_eq hScalar hHolds.text] at hPattern
    exact ⟨hOf, s, hScalar, hHolds, hPattern⟩
  · rintro ⟨hOf, s, hScalar, hHolds, hPattern⟩
    rw [nameAt_eq hScalar hHolds.text]
    exact ⟨⟨hOf, s, hScalar, hHolds⟩, hPattern⟩

theorem accepted_sublist
    (withInit : Bool)
    (pattern : ImagePattern)
    (t : Tree) :
    (accepted withInit pattern t).Sublist
      (Cursor.atRoot t).descendants := by
  exact List.filter_sublist.trans List.filter_sublist

end ContainerImage

namespace ImageUpdate

variable {r : ImageUpdate} {t : Tree} {p : Path} {s : Scalar}

------------------------------------------------------------
-- References
------------------------------------------------------------

/- A reference with the new parts, as text. -/
def updated (r : ImageUpdate) (text : String) : String :=
  (r.apply (ImageName.ofText text)).text

/-
  The new reference is not accepted, or it stays as it is when
  it is updated.
-/
def Settles (r : ImageUpdate) (text : String) : Prop :=
  r.pattern.accepts (ImageName.ofText (r.updated text)) = true →
    r.updated (r.updated text) = r.updated text

theorem apply_apply (r : ImageUpdate) (n : ImageName) :
    r.apply (r.apply n) = r.apply n := by
  rcases r with ⟨pattern, r?, i?, t?, withInit⟩
  cases r? <;> cases i? <;> cases t? <;> rfl

/- A new reference that can be read back stays as it is. -/
theorem settles_of_separable
    {text : String}
    (hParts : (r.apply (ImageName.ofText text)).Separable) :
    r.Settles text := by
  intro _
  rw [updated, updated, ImageName.ofText_text hParts,
    apply_apply]

/- Null texts hold no separator of references. -/
theorem not_mem_of_isNullText
    {text : String}
    (hNull : Scalar.isNullText text = true) :
    '/' ∉ text.toList ∧ ':' ∉ text.toList ∧
      '@' ∉ text.toList := by
  simp only [Scalar.isNullText, decide_eq_true_eq,
    List.mem_cons, List.not_mem_nil, or_false] at hNull
  rcases hNull with rfl | rfl | rfl | rfl | rfl <;> simp

/- A new reference that is a null text can be read back. -/
theorem settles_of_isNullText
    {text : String}
    (hNull : Scalar.isNullText (r.updated text) = true) :
    r.Settles text := by
  apply settles_of_separable
  have hPlain := not_mem_of_isNullText hNull
  rw [updated, ImageName.text, String.toList_ofList] at hPlain
  exact ImageName.separable_of_plain hPlain.1 hPlain.2.1
    hPlain.2.2

------------------------------------------------------------
-- Accepted Images
------------------------------------------------------------

/- The scalar at a path is an image that the pattern accepts. -/
structure Accepts
    (r : ImageUpdate)
    (t : Tree)
    (p : Path)
    (s : Scalar) : Prop where
  place : Workload.ImagePath r.withInit t p
  node : t.lookup? p = some (.scalar s)
  text : s.isNull = false
  pattern : r.pattern.accepts (ImageName.ofText s.text) = true

/- The edits of a visit. -/
abbrev edits (r : ImageUpdate) (t : Tree) : List Edit :=
  (ContainerImage.accepted r.withInit r.pattern t).map r.edit

theorem mem_accepted_iff
    (hKeys : t.UniqueKeys)
    {c : Cursor} :
    c ∈ ContainerImage.accepted r.withInit r.pattern t ↔
      c.IsOf t ∧ ∃ s, c.node = .scalar s ∧
        r.Accepts t c.path s := by
  rw [ContainerImage.mem_accepted_iff hKeys]
  constructor
  · rintro ⟨hOf, s, hScalar, hHolds, hPattern⟩
    exact ⟨hOf, s, hScalar, hHolds.place, hHolds.node,
      hHolds.text, hPattern⟩
  · rintro ⟨hOf, s, hScalar, hPlace, hNode, hNull, hPattern⟩
    exact ⟨hOf, s, hScalar, ⟨hPlace, hNode, hNull⟩, hPattern⟩

theorem Accepts.exists_cursor
    (hAccepts : r.Accepts t p s)
    (hKeys : t.UniqueKeys) :
    ∃ c ∈ ContainerImage.accepted r.withInit r.pattern t,
      c.path = p ∧ c.node = .scalar s := by
  rcases Cursor.exists_isOf_of_lookup? hAccepts.node with
    ⟨c, hOf, rfl, hNode⟩
  exact ⟨c, (mem_accepted_iff hKeys).mpr
    ⟨hOf, s, hNode, hAccepts⟩, rfl, hNode⟩

/- An edit asks for the new reference of an accepted image. -/
theorem mem_edits_iff
    (hKeys : t.UniqueKeys)
    {e : Edit} :
    e ∈ r.edits t ↔
      ∃ s, r.Accepts t e.path s ∧ e.text = r.updated s.text := by
  rw [List.mem_map]
  constructor
  · rintro ⟨c, hMember, rfl⟩
    rcases (mem_accepted_iff hKeys).mp hMember with
      ⟨_, s, hNode, hAccepts⟩
    refine ⟨s, hAccepts, ?_⟩
    rw [edit, ContainerImage.nameAt_eq hNode hAccepts.text, updated]
  · rintro ⟨s, hAccepts, hText⟩
    rcases hAccepts.exists_cursor hKeys with
      ⟨c, hMember, hPath, hNode⟩
    refine ⟨c, hMember, ?_⟩
    rw [edit, ContainerImage.nameAt_eq hNode hAccepts.text, hPath]
    exact congrArg (Edit.mk e.path) hText.symm

------------------------------------------------------------
-- One Visit
------------------------------------------------------------

/- A visit changes nothing when every accepted image has its new text. -/
theorem visit_eq_unchanged_iff (hKeys : t.UniqueKeys) :
    r.visit t = Visit.unchanged ↔
      ∀ p s, r.Accepts t p s → r.updated s.text = s.text := by
  have hNone :
      r.visit t = Visit.unchanged ↔
        t.rewriteScalars? (r.edits t) = none := by
    simp [visit, Visit.rewritten, Visit.unchanged]
  rw [hNone, Tree.rewriteScalars?_eq_none_iff]
  constructor
  · intro hIdle p s hAccepts
    have hEdit := hIdle ⟨p, r.updated s.text⟩
      ((mem_edits_iff hKeys).mpr ⟨s, hAccepts, rfl⟩)
    exact (Tree.rewriteScalar?_eq_none_iff.mp hEdit s
      hAccepts.node).symm
  · intro hSettled e hMember
    rcases (mem_edits_iff hKeys).mp hMember with
      ⟨s, hAccepts, hText⟩
    rw [Tree.rewriteScalar?_eq_none_iff]
    intro s' hNode
    rw [Tree.scalar_eq_of_lookup? hNode hAccepts.node, hText,
      hSettled e.path s hAccepts]

/- Each image is updated in one way. -/
theorem consistent_edits (hKeys : t.UniqueKeys) :
    Edit.Consistent (r.edits t) := by
  intro e hLeft f hRight hPath
  rcases (mem_edits_iff hKeys).mp hLeft with
    ⟨s, hAccepts, hText⟩
  rcases (mem_edits_iff hKeys).mp hRight with
    ⟨s', hAccepts', hText'⟩
  have hSame : s = s' :=
    Tree.scalar_eq_of_lookup? hAccepts.node
      (hPath ▸ hAccepts'.node)
  rw [hText, hText', hSame]

------------------------------------------------------------
-- The Document After a Visit
------------------------------------------------------------

/- Accepted images get their new text. -/
theorem Accepts.lookup?_result
    (hAccepts : r.Accepts t p s)
    (hKeys : t.UniqueKeys) :
    ((r.visit t).result t).lookup? p =
      some (.scalar (s.retext (r.updated s.text))) := by
  have hEdit : ⟨p, r.updated s.text⟩ ∈ r.edits t :=
    (mem_edits_iff hKeys).mpr ⟨s, hAccepts, rfl⟩
  exact Tree.lookup?_of_edit (consistent_edits hKeys) hEdit
    hAccepts.node

/- Other scalars keep theirs. -/
theorem lookup?_result_eq_scalar
    {s' : Scalar}
    (hKeys : t.UniqueKeys)
    (hNode : ((r.visit t).result t).lookup? p =
      some (.scalar s')) :
    t.lookup? p = some (.scalar s') ∨
      ∃ s, r.Accepts t p s ∧
        s' = s.retext (r.updated s.text) := by
  rcases Tree.lookup?_rewritten_eq_scalar (consistent_edits hKeys)
    hNode with ⟨s, hOld, hKept | ⟨e, hMember, rfl, hNew⟩⟩
  · exact Or.inl (hKept ▸ hOld)
  · rcases (mem_edits_iff hKeys).mp hMember with
      ⟨s₀, hAccepts, hText⟩
    have hSame := Tree.scalar_eq_of_lookup? hOld hAccepts.node
    rw [hText, hSame] at hNew
    exact Or.inr ⟨s₀, hAccepts, hNew⟩

theorem textAt?_result (hKeys : t.UniqueKeys) :
    ((r.visit t).result t).textAt? "kind" = t.textAt? "kind" := by
  apply Tree.textAt?_rewriteScalars?
  intro e hMember hPath
  rcases (mem_edits_iff hKeys).mp hMember with ⟨s, hAccepts, _⟩
  exact Workload.not_imagePath_kind (hPath ▸ hAccepts.place)

theorem uniqueKeys_result (hKeys : t.UniqueKeys) :
    ((r.visit t).result t).UniqueKeys := by
  exact Tree.uniqueKeys_rewriteScalars? hKeys (r.edits t)

/-
  The images that are accepted after a visit are those that
  were accepted before and whose new text is accepted again.
-/
theorem accepts_result_iff
    (hKeys : t.UniqueKeys)
    {s' : Scalar} :
    r.Accepts ((r.visit t).result t) p s' ↔
      ∃ s, r.Accepts t p s ∧
        s' = s.retext (r.updated s.text) ∧ s'.isNull = false ∧
          r.pattern.accepts (ImageName.ofText s'.text) = true := by
  have hPlace :
      Workload.ImagePath r.withInit ((r.visit t).result t) p ↔
        Workload.ImagePath r.withInit t p :=
    Workload.ImagePath.congr (textAt?_result hKeys)
  constructor
  · rintro ⟨hAt, hNode, hText, hPattern⟩
    rcases lookup?_result_eq_scalar hKeys hNode with
      hOld | ⟨s, hAccepts, hNew⟩
    · have hAccepts : r.Accepts t p s' :=
        ⟨hPlace.mp hAt, hOld, hText, hPattern⟩
      have hNew := Tree.scalar_eq_of_lookup? hNode
        (hAccepts.lookup?_result hKeys)
      exact ⟨s', hAccepts, hNew, hText, hPattern⟩
    · exact ⟨s, hAccepts, hNew, hText, hPattern⟩
  · rintro ⟨s, hAccepts, rfl, hText, hPattern⟩
    exact ⟨hPlace.mpr hAccepts.place,
      hAccepts.lookup?_result hKeys, hText, hPattern⟩

/- Accepted references are those at the places of images. -/
theorem forall_accepted_iff
    (hKeys : t.UniqueKeys)
    (P : String → Prop) :
    (∀ c ∈ ContainerImage.accepted r.withInit r.pattern t,
        P (c.node.text?.getD "")) ↔
      ∀ p s, r.Accepts t p s → P s.text := by
  have hText : ∀ (c : Cursor) (s : Scalar),
      c.node = .scalar s → s.isNull = false →
        c.node.text?.getD "" = s.text := by
    intro c s hNode hNull
    rw [Tree.text?_eq_some_iff.mpr ⟨s, hNode, hNull, rfl⟩,
      Option.getD_some]
  constructor
  · intro hAll p s hAccepts
    rcases hAccepts.exists_cursor hKeys with
      ⟨c, hMember, _, hNode⟩
    have hHolds := hAll c hMember
    rwa [hText c s hNode hAccepts.text] at hHolds
  · intro hAll c hMember
    rcases (mem_accepted_iff hKeys).mp hMember with
      ⟨_, s, hNode, hAccepts⟩
    rw [hText c s hNode hAccepts.text]
    exact hAll c.path s hAccepts

/- The result settles when the new text of each accepted image does. -/
theorem visit_result_iff (hKeys : t.UniqueKeys) :
    r.visit ((r.visit t).result t) = Visit.unchanged ↔
      ∀ p s, r.Accepts t p s → r.Settles s.text := by
  rw [visit_eq_unchanged_iff (uniqueKeys_result hKeys)]
  constructor
  · intro hIdle p s hAccepts hPattern
    cases hNull : (s.retext (r.updated s.text)).isNull with
    | true =>
        exact settles_of_isNullText
          (Scalar.isNullText_of_retext hAccepts.text hNull)
          hPattern
    | false =>
        have hAgain : r.Accepts ((r.visit t).result t) p
            (s.retext (r.updated s.text)) :=
          (accepts_result_iff hKeys).mpr
            ⟨s, hAccepts, rfl, hNull, by simpa using hPattern⟩
        simpa using hIdle p _ hAgain
  · intro hSettles p s' hAgain
    rcases (accepts_result_iff hKeys).mp hAgain with
      ⟨s, hAccepts, rfl, _, hPattern⟩
    rw [Scalar.retext_text] at hPattern ⊢
    exact hSettles p s hAccepts hPattern

------------------------------------------------------------
-- Visiting Twice
------------------------------------------------------------

/-
  A second visit changes nothing exactly when the new reference
  of every accepted image is no longer accepted or stays as it
  is when it is updated again.  It suffices that the new
  references can be read back.
-/
theorem unchanged_again_iff_settles
    (r : ImageUpdate)
    (t : Tree)
    (hKeys : t.UniqueKeys) :
    (r.visit ((r.visit t).result t) = Visit.unchanged ↔
      ∀ c ∈ ContainerImage.accepted r.withInit r.pattern t,
        r.Settles (c.node.text?.getD "")) ∧
    ((∀ c ∈ ContainerImage.accepted r.withInit r.pattern t,
        (r.apply (ContainerImage.nameAt c)).Separable) →
      r.visit ((r.visit t).result t) = Visit.unchanged) := by
  have hExact := visit_result_iff (r := r) hKeys
  constructor
  · rw [hExact, forall_accepted_iff hKeys]
  · intro hParts
    rw [hExact, ← forall_accepted_iff hKeys]
    intro c hMember
    exact settles_of_separable (hParts c hMember)

/- Two visits that put a path in the place of every image. -/
theorem unchanged_again_iff_settles_pod :
    let r : ImageUpdate :=
      ⟨⟨none, some "*", none⟩, none, some "x/y", none, false⟩
    let t : Tree :=
      .mapping [("kind", .string "Pod"),
        ("spec", .mapping [("containers",
          .sequence [.mapping [("image", .string "nginx")]])])]
    t.UniqueKeys ∧
    (r.visit ((r.visit t).result t) = Visit.unchanged ↔
      ∀ c ∈ ContainerImage.accepted r.withInit r.pattern t,
        r.Settles (c.node.text?.getD "")) ∧
    ((∀ c ∈ ContainerImage.accepted r.withInit r.pattern t,
        (r.apply (ContainerImage.nameAt c)).Separable) →
      r.visit ((r.visit t).result t) = Visit.unchanged) := by
  intro r t
  have hKeys : t.UniqueKeys := by decide
  exact ⟨hKeys, unchanged_again_iff_settles r t hKeys⟩

/- The second of these visits puts the path there once more. -/
theorem unsettled_visit :
    let r : ImageUpdate :=
      ⟨⟨none, some "*", none⟩, none, some "x/y", none, false⟩
    let t : Tree :=
      .mapping [("kind", .string "Pod"),
        ("spec", .mapping [("containers",
          .sequence [.mapping [("image", .string "nginx")]])])]
    Options.build (.updateImage r) = .ok (.updateImage r) ∧
      t.UniqueKeys ∧
        r.visit ((r.visit t).result t) ≠ Visit.unchanged := by
  intro r t
  exact ⟨rfl, by decide, by decide +kernel⟩

end ImageUpdate

end ManifestRecipes
