import ManifestRecipes.Proofs.Findings
import ManifestRecipes.Proofs.Image.Glob
import ManifestRecipes.Proofs.Image.RoundTrip
import ManifestRecipes.Proofs.Recipe.ContainerImage

/-
  What the search for images lists.

  A pattern asks each of its globs about one part of a
  reference.  The parts consist of characters of the text that
  the reference is read from, and so a text without a star has
  parts that a glob accepts exactly when it matches them.

  Key definitions include:
    * `ImagePattern.FitsPart`
    * `ImagePattern.Fits`
    * `ContainerImage.Finds`

  Main declarations:
    * `ImagePattern.accepts_ofText_iff`
    * `ContainerImage.find_lists_fitting`
-/

namespace ManifestRecipes

------------------------------------------------------------
-- Fitting References
------------------------------------------------------------

namespace ImageName

theorem mem_chars_of_mem_part
    {n : ImageName}
    {c : Char}
    (hPart : c ∈ (n.repository?.getD "").toList ∨
      c ∈ n.image.toList ∨ c ∈ (n.tag?.getD "").toList) :
    c ∈ n.chars := by
  rcases n with ⟨r?, image, t?, d?⟩
  rw [chars_eq]
  cases r? <;> cases t? <;> simp_all [before, behind] <;> tauto

end ImageName

namespace ImagePattern

/- A glob that is given matches a part; an absent part counts as empty. -/
def FitsPart (glob? part? : Option String) : Prop :=
  ∀ g, glob? = some g →
    Glob.Matches g.toList (part?.getD "").toList

/- The globs match the parts of a reference; digests do not matter. -/
structure Fits (p : ImagePattern) (n : ImageName) : Prop where
  repository : FitsPart p.repository? n.repository?
  image : FitsPart p.image? (some n.image)
  tag : FitsPart p.tag? n.tag?

/- A glob accepts a part without a star exactly when it matches it. -/
theorem acceptsPart_iff_fitsPart
    {glob? part? : Option String}
    (hPlain : '*' ∉ (part?.getD "").toList) :
    acceptsPart glob? part? = true ↔ FitsPart glob? part? := by
  cases glob? with
  | none => simp [acceptsPart, FitsPart]
  | some g =>
      have hGlob := Glob.accepts_iff_matches (p := g.toList) hPlain
      simp only [acceptsPart, FitsPart, Bool.or_eq_true,
        decide_eq_true_eq, Option.some.injEq, forall_eq', hGlob]
      -- A lone star is accepted without being tried.
      apply or_iff_right_of_imp
      intro hStar
      rw [hStar]
      exact ⟨[_], .cons (Glob.standsFor_star _) .nil,
        List.flatten_singleton⟩

/- A pattern accepts a reference without a star when it fits. -/
theorem accepts_iff_fits
    {p : ImagePattern}
    {n : ImageName}
    (hPlain : '*' ∉ n.chars) :
    p.accepts n = true ↔ p.Fits n := by
  have hParts := mt ImageName.mem_chars_of_mem_part hPlain
  rw [not_or, not_or] at hParts
  rcases hParts with ⟨hRepository, hImage, hTag⟩
  have hName :
      acceptsPart p.image? (some n.image) = true ↔
        FitsPart p.image? (some n.image) :=
    acceptsPart_iff_fitsPart hImage
  rw [accepts, Bool.and_eq_true, Bool.and_eq_true, hName,
    acceptsPart_iff_fitsPart hRepository,
    acceptsPart_iff_fitsPart hTag]
  constructor
  · intro hFits
    exact ⟨hFits.1.1, hFits.1.2, hFits.2⟩
  · intro hFits
    exact ⟨⟨hFits.repository, hFits.image⟩, hFits.tag⟩

/- So it does with what is read from a text without a star. -/
theorem accepts_ofText_iff
    {p : ImagePattern}
    {text : String}
    (hPlain : '*' ∉ text.toList) :
    p.accepts (ImageName.ofText text) = true ↔
      p.Fits (ImageName.ofText text) := by
  apply accepts_iff_fits
  intro hMember
  exact hPlain ((ImageName.sublist_ofText text).subset hMember)

end ImagePattern

------------------------------------------------------------
-- Listed Images
------------------------------------------------------------

namespace ContainerImage

/- The search says the same of each accepted image, in document order. -/
theorem entries_find
    {p : ImagePattern}
    {t : Tree}
    (hKeys : t.UniqueKeys) :
    (find p t).findings.entries =
      (accepted true p t).map fun c => ⟨c.path, p.text⟩ := by
  have hPaths : ((accepted true p t).map Cursor.path).Nodup :=
    (Cursor.nodup_paths_descendants hKeys).sublist
      ((accepted_sublist true p t).map Cursor.path)
  exact Findings.entries_ofNodes_const hPaths

/-
  A search for images finds the texts at the places of images,
  those of initial containers included, whose parts fit the
  pattern, each of them once and all of them in the order of
  the document.
-/
structure Finds (p : ImagePattern) (t : Tree) (cs : List Cursor) :
    Prop where
  nodup : (cs.map Cursor.path).Nodup
  ordered : cs.Pairwise fun c d => c.orderKey < d.orderKey
  mem_iff : ∀ c, c ∈ cs ↔
    c.IsOf t ∧ ∃ s, c.node = .scalar s ∧
      t.HoldsText (Workload.ImagePath true t) c.path s ∧
      p.Fits (ImageName.ofText s.text)

/-
  What is found has one finding each, and the document stays,
  provided that no image has a star.
-/
theorem find_lists_fitting
    (p : ImagePattern)
    (t : Tree)
    (hKeys : t.UniqueKeys)
    (hPlain : ∀ q s,
      t.HoldsText (Workload.ImagePath true t) q s →
        '*' ∉ s.text.toList) :
    ∃ r v, ∃ cs : List Cursor,
      Options.build (.findImage p) = .ok r ∧ r.visit t = .ok v ∧
      v.root? = none ∧
      v.findings.entries = cs.map (fun c => ⟨c.path, p.text⟩) ∧
      Finds p t cs := by
  have hSublist := accepted_sublist true p t
  refine ⟨.findImage p, find p t, accepted true p t, rfl, rfl, rfl,
    entries_find hKeys, ?_, ?_, ?_⟩
  · exact (Cursor.nodup_paths_descendants hKeys).sublist
      (hSublist.map Cursor.path)
  · exact (Cursor.descendants_pairwise (.atRoot t)).sublist hSublist
  · intro c
    rw [mem_accepted_iff hKeys]
    apply and_congr_right
    intro _
    apply exists_congr
    intro s
    apply and_congr_right
    intro _
    apply and_congr_right
    intro hHolds
    exact ImagePattern.accepts_ofText_iff (hPlain c.path s hHolds)

/- An initial container that fits two stars, and one without a repository. -/
theorem find_lists_fitting_pod :
    let p : ImagePattern := ⟨some "*/a*", some "*ab?*ab", none⟩
    let t : Tree :=
      .mapping [("kind", .string "Pod"),
        ("spec", .mapping [
          ("initContainers", .sequence [
            .mapping [("image", .string "hub/aa/abb-aab@sha256:0")]]),
          ("containers", .sequence [
            .mapping [("image", .string "abb-aab:1")]])])]
    t.UniqueKeys ∧
    (∀ q s, t.HoldsText (Workload.ImagePath true t) q s →
      '*' ∉ s.text.toList) ∧
    (accepted true p t).length = 1 ∧
    ∃ cs : List Cursor,
      (find p t).findings.entries =
        cs.map (fun c => ⟨c.path, p.text⟩) ∧
      Finds p t cs := by
  intro p t
  have hKeys : t.UniqueKeys := by decide
  have hImages : ∀ c ∈ all true t,
      '*' ∉ (c.node.text?.getD "").toList := by decide
  have hPlain : ∀ q s,
      t.HoldsText (Workload.ImagePath true t) q s →
        '*' ∉ s.text.toList := by
    intro q s hHolds
    rcases exists_mem_all hKeys hHolds with
      ⟨c, hMember, _, hScalar⟩
    have hText := hImages c hMember
    rwa [Tree.text?_eq_some_iff.mpr
      ⟨s, hScalar, hHolds.text, rfl⟩] at hText
  rcases find_lists_fitting p t hKeys hPlain with
    ⟨r, v, cs, hBuild, hVisit, _, hEntries, hFinds⟩
  obtain rfl : Recipe.findImage p = r := Except.ok.inj hBuild
  obtain rfl : find p t = v := Except.ok.inj hVisit
  exact ⟨hKeys, hPlain, by decide, cs, hEntries, hFinds⟩

end ContainerImage

end ManifestRecipes
