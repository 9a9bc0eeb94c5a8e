import ManifestRecipes.Proofs.Image.RoundTrip
import ManifestRecipes.Proofs.Recipe.ContainerImage

/-
  What an update of images replaces.

  Where a reference can be read back and the given parts hold
  no separators, the new reference can be read back as well.
  It has the given parts in place of its own and keeps the
  others, and nothing else of the document changes.

  Key definitions include:
    * `ImageUpdate.PlainParts`
    * `ImageUpdate.Replaces`
    * `ImageUpdate.ReplacesIn`

  Main declarations:
    * `ImageUpdate.Replaces.separable`
    * `ImageUpdate.ofText_updated`
    * `ImageUpdate.visit_replaces_parts`
-/

namespace ManifestRecipes

namespace ImageUpdate

variable {r : ImageUpdate} {n n' : ImageName} {t : Tree}

------------------------------------------------------------
-- Replaced Parts
------------------------------------------------------------

/-
  The given parts hold no separators, and an image or a tag
  that is given is not empty.
-/
structure PlainParts (r : ImageUpdate) : Prop where
  repository : ∀ s, r.repository? = some s → '@' ∉ s.toList
  image : ∀ s, r.image? = some s →
    s ≠ "" ∧ '/' ∉ s.toList ∧ ':' ∉ s.toList ∧ '@' ∉ s.toList
  tag : ∀ s, r.tag? = some s →
    s ≠ "" ∧ '/' ∉ s.toList ∧ ':' ∉ s.toList ∧ '@' ∉ s.toList

/-
  A reference has the given parts in place of those of another
  and its digest; the empty repository removes the part.
-/
structure Replaces
    (r : ImageUpdate)
    (n n' : ImageName) : Prop where
  repository : n'.repository? =
    if r.repository? = some "" then none
    else r.repository?.or n.repository?
  image : n'.image = r.image?.getD n.image
  tag : n'.tag? = r.tag?.or n.tag?
  digest : n'.digest? = n.digest?

/- The parts of an updated reference. -/
theorem apply_eq (r : ImageUpdate) (n : ImageName) :
    r.apply n =
      ⟨r.repository?.elim n.repository? fun s =>
          ImageName.given? (some s),
        r.image?.getD n.image,
        r.tag?.elim n.tag? fun s => ImageName.given? (some s),
        n.digest?⟩ := by
  rcases r with ⟨pattern, r?, i?, t?, withInit⟩
  cases r? <;> cases i? <;> cases t? <;> rfl

/- An update replaces the given parts. -/
theorem replaces_apply
    (hParts : r.PlainParts)
    (n : ImageName) :
    r.Replaces n (r.apply n) := by
  rw [apply_eq]
  refine ⟨?_, rfl, ?_, rfl⟩
  · cases r.repository? with
    | none => simp
    | some s =>
        by_cases hEmpty : s = "" <;>
          simp [ImageName.given?, hEmpty]
  · cases hTag : r.tag? with
    | none => simp
    | some s =>
        simp [ImageName.given?, (hParts.tag s hTag).1]

/-
  Plain parts leave a separable reference separable.  A tag is
  never taken away, so a colon in the image stays harmless.
-/
theorem Replaces.separable
    (hReplaces : r.Replaces n n')
    (hParts : r.PlainParts)
    (hSeparable : n.Separable) :
    n'.Separable := by
  rw [ImageName.separable_iff] at hSeparable ⊢
  rcases hSeparable with
    ⟨hRepository, hImage, hTag, hUntagged, hDigest, hUndigested⟩
  rcases hReplaces with ⟨hRepository', hImage', hTag', hDigest'⟩
  rw [hRepository', hImage', hTag', hDigest']
  have hNewRepository := hParts.repository
  have hNewImage := hParts.image
  have hNewTag := hParts.tag
  refine ⟨?_, ?_, ?_, ?_, hDigest, ?_⟩
  · split_ifs with hEmpty
    · simp
    · cases hGiven : r.repository? with
      | none => simpa
      | some s => simpa [hGiven] using hEmpty
  · cases hGiven : r.image? with
    | none => exact hImage
    | some s => exact (hNewImage s hGiven).2.1
  · cases hGiven : r.tag? with
    | none => exact hTag
    | some s =>
        rintro _ ⟨⟩
        have hPlain := hNewTag s hGiven
        exact ⟨hPlain.1, hPlain.2.2.1, hPlain.2.1⟩
  · rw [Option.or_eq_none_iff]
    rintro ⟨_, hNone⟩
    cases hGiven : r.image? with
    | none => exact hUntagged hNone
    | some s => exact (hNewImage s hGiven).2.2.1
  · intro hNone
    rcases hUndigested hNone with ⟨hOldRepository, hOldImage, hOldTag⟩
    refine ⟨?_, ?_, ?_⟩
    · intro s hSome
      split_ifs at hSome
      rcases Option.or_eq_some_iff.mp hSome with hGiven | ⟨_, hOld⟩
      · exact hNewRepository s hGiven
      · exact hOldRepository s hOld
    · cases hGiven : r.image? with
      | none => exact hOldImage
      | some s => exact (hNewImage s hGiven).2.2.2
    · intro s hSome
      rcases Option.or_eq_some_iff.mp hSome with hGiven | ⟨_, hOld⟩
      · exact (hNewTag s hGiven).2.2.2
      · exact hOldTag s hOld

/-
  The new reference has the given parts in place of its own if
  the old one can be read back.
-/
theorem replaces_updated
    {text : String}
    (hParts : r.PlainParts)
    (hBack : ImageName.ofText (ImageName.ofText text).text =
      ImageName.ofText text) :
    r.Replaces (ImageName.ofText text)
      (ImageName.ofText (r.updated text)) := by
  have hReplaces :=
    replaces_apply hParts (ImageName.ofText text)
  have hSeparable := hReplaces.separable hParts
    (ImageName.separable_of_ofText_text hBack)
  rw [updated, ImageName.ofText_text hSeparable]
  exact hReplaces

------------------------------------------------------------
-- Replacing in a Document
------------------------------------------------------------

/- A visit changes a document at the accepted images only. -/
theorem sameOutside_visit (hKeys : t.UniqueKeys) :
    Tree.SameOutside (fun p => ∃ s, r.Accepts t p s) t
      ((r.visit t).result t) := by
  have hEdited : ∀ p,
      (∃ e ∈ r.edits t, e.path = p) ↔ ∃ s, r.Accepts t p s := by
    intro p
    constructor
    · rintro ⟨e, hMember, rfl⟩
      rcases (mem_edits_iff hKeys).mp hMember with ⟨s, hAccepts, _⟩
      exact ⟨s, hAccepts⟩
    · rintro ⟨s, hAccepts⟩
      exact ⟨⟨p, r.updated s.text⟩,
        (mem_edits_iff hKeys).mpr ⟨s, hAccepts, rfl⟩, rfl⟩
  have hSame := Tree.sameOutside_rewriteScalars? t (r.edits t)
  simp only [hEdited] at hSame
  exact hSame

/-
  The parts of each accepted image that can be read back are
  replaced by those that are given, and its other parts and its
  digest are kept.  Nothing else changes: other nodes are the
  same, sequences are as long as before, and mappings have the
  same keys in the same order.
-/
structure ReplacesIn (r : ImageUpdate) (t t' : Tree) : Prop where
  image : ∀ p s, r.Accepts t p s →
    ImageName.ofText (ImageName.ofText s.text).text =
        ImageName.ofText s.text →
      ∃ s', t'.lookup? p = some (.scalar s') ∧
        r.Replaces (ImageName.ofText s.text)
          (ImageName.ofText s'.text)
  outside : Tree.SameOutside (fun p => ∃ s, r.Accepts t p s) t t'

/- Updating images replaces their parts by plain parts. -/
theorem visit_replaces_parts
    (r : ImageUpdate)
    (t : Tree)
    (hKeys : t.UniqueKeys)
    (hParts : r.PlainParts) :
    ∃ recipe v,
      Options.build (.updateImage r) = .ok recipe ∧
      recipe.visit t = .ok v ∧ r.ReplacesIn t (v.result t) := by
  refine ⟨.updateImage r, r.visit t, rfl, rfl, ?_,
    sameOutside_visit hKeys⟩
  intro p s hAccepts hBack
  refine ⟨_, hAccepts.lookup?_result hKeys, ?_⟩
  rw [Scalar.retext_text]
  exact replaces_updated hParts hBack

/-
  The empty repository and a tag for the images of a pod whose
  names begin with `a`, that of an initial container included.
-/
theorem visit_replaces_parts_pod :
    let r : ImageUpdate :=
      ⟨⟨none, some "a*", none⟩, some "", none, some "v2", true⟩
    let t : Tree :=
      .mapping [("kind", .string "Pod"),
        ("spec", .mapping [
          ("initContainers", .sequence [
            .mapping [("image", .string "hub:5000/app@sha256:0")]]),
          ("containers", .sequence [
            .mapping [("image", .string "hub/nginx:1")]])])]
    let p : Path :=
      [.field "spec", .field "initContainers", .index 0,
        .field "image"]
    t.UniqueKeys ∧ r.PlainParts ∧
    (∃ s, r.Accepts t p s ∧
      ImageName.ofText (ImageName.ofText s.text).text =
        ImageName.ofText s.text) ∧
    r.ReplacesIn t ((r.visit t).result t) ∧
    ((r.visit t).result t).lookup? p =
      some (.string "app:v2@sha256:0") := by
  intro r t p
  have hKeys : t.UniqueKeys := by decide
  have hParts : r.PlainParts := by
    constructor
    · rintro _ ⟨⟩
      decide
    · rintro _ ⟨⟩
    · rintro _ ⟨⟩
      decide
  have hEdit : (⟨p, "app:v2@sha256:0"⟩ : Edit) ∈ r.edits t := by
    decide +kernel
  rcases (mem_edits_iff hKeys).mp hEdit with ⟨s, hAccepts, _⟩
  have hText : s = .string "hub:5000/app@sha256:0" :=
    Tree.scalar_eq_of_lookup? hAccepts.node rfl
  rcases visit_replaces_parts r t hKeys hParts with
    ⟨recipe, v, hBuild, hVisit, hReplaces⟩
  obtain rfl : Recipe.updateImage r = recipe := Except.ok.inj hBuild
  obtain rfl : r.visit t = v := Except.ok.inj hVisit
  refine ⟨hKeys, hParts, ⟨s, hAccepts, ?_⟩, hReplaces,
    by decide +kernel⟩
  rw [hText]
  decide

end ImageUpdate

end ManifestRecipes
