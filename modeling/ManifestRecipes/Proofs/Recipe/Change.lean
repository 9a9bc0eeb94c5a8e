import ManifestRecipes.Proofs.Recipe.Configuration
import ManifestRecipes.Proofs.Recipe.ContainerImage
import ManifestRecipes.Proofs.Recipe.Limit
import ManifestRecipes.Proofs.Recipe.Role

/-
  What recipes report as changed.

  Each recipe decides in its own way whether it rewrites a
  document: something was added, some scalar had another text
  or a key was new.  In all of them a rewritten document is
  another one.

  Key definitions include:
    * `Recipe.WellFormed`

  Main declarations:
    * `Recipe.wellFormed_of_build`
    * `Recipe.truthful_visit`
-/

namespace ManifestRecipes

variable {t : Tree}

------------------------------------------------------------
-- Changes by Edits
------------------------------------------------------------

theorem Edit.consistent_of_text_eq
    {es : List Edit}
    (text : String)
    (hText : ∀ e ∈ es, e.text = text) :
    Edit.Consistent es := by
  intro e hLeft f hRight _
  rw [hText e hLeft, hText f hRight]

/- A replaced version is another one. -/
theorem VersionChange.truthful_visit (r : VersionChange) :
    (r.visit t).Truthful t := by
  unfold VersionChange.visit
  by_cases hOld : t.textAt? "apiVersion" = some r.old
  · rw [if_pos hOld]
    apply Visit.truthful_rewritten
    apply Edit.consistent_of_text_eq r.new
    simp
  · rw [if_neg hOld]
    exact Visit.truthful_of_root?_eq_none rfl

/- Replaced addresses are other ones. -/
theorem ExternalIpUpdate.truthful_visit (r : ExternalIpUpdate) :
    (r.visit t).Truthful t := by
  apply Visit.truthful_rewritten
  apply Edit.consistent_of_text_eq r.new
  intro e hMember
  rcases List.mem_map.mp hMember with ⟨c, _, rfl⟩
  rfl

/- Updated images are other ones. -/
theorem ImageUpdate.truthful_visit
    (r : ImageUpdate)
    (hKeys : t.UniqueKeys) :
    (r.visit t).Truthful t := by
  exact Visit.truthful_rewritten (consistent_edits hKeys)

/- Lowered quantities are other ones. -/
theorem QuantityLimit.truthful_cap
    {l : QuantityLimit}
    {v : Visit}
    (hKeys : t.UniqueKeys)
    (hVisit : l.cap t = .ok v) :
    v.Truthful t := by
  rcases exists_of_bind_eq_ok hVisit with
    ⟨above, hDone, hRewritten⟩
  cases hRewritten
  exact Visit.truthful_rewritten (consistent_capEdit hKeys hDone)

------------------------------------------------------------
-- Changes by Additions
------------------------------------------------------------

/- A document with configuration added is another one. -/
theorem AddedConfiguration.truthful_visit
    {r : AddedConfiguration}
    (hForm : r.WellFormed)
    (hKeys : t.UniqueKeys) :
    (r.visit t).Truthful t := by
  by_cases hChanges : r.applies t = true ∧ r.Lacks t
  · intro t' hRoot
    have hGrown := result_visit hForm hKeys hChanges.1 hChanges.2
    rw [Visit.result, hRoot, Option.getD_some] at hGrown
    rcases hChanges.2 with ⟨p, es, hNode, hMarks, hLacking⟩
    have hStamped : Merge.Stamped t (r.targets t) p :=
      (stamped_iff_marks hForm hKeys).mpr ⟨⟨es, hNode⟩, hMarks⟩
    rw [hGrown]
    exact Merge.stamping_ne hNode
      (Merge.stamped_iff_marked.mp hStamped).2 hLacking
  · have hUnchanged :=
      (visit_eq_unchanged_iff hForm hKeys).mpr hChanges
    rw [hUnchanged]
    exact Visit.truthful_of_root?_eq_none rfl

------------------------------------------------------------
-- All Recipes
------------------------------------------------------------

namespace Recipe

/- A recipe that can be built. -/
def WellFormed : Recipe → Prop
  | .addConfiguration r => r.WellFormed
  | _ => True

/- Options that are accepted make a well-formed recipe. -/
theorem wellFormed_of_build
    {o : Options}
    {r : Recipe}
    (hBuild : o.build = .ok r) :
    r.WellFormed := by
  cases o with
  | addConfiguration o =>
      rcases exists_of_bind_eq_ok hBuild with
        ⟨a, hOptions, hDone⟩
      cases hDone
      exact AddedConfiguration.wellFormed_of_build hOptions
  | findMissingConfiguration | capQuantity | findQuantity
  | findRatio | findTags | searchAnnotations | checkEntry
  | addRule =>
      rcases exists_of_bind_eq_ok hBuild with ⟨_, _, hDone⟩
      cases hDone
      trivial
  | updateImage | findImage | findMissingDigest | changeVersion
  | findServiceType | findExternalIps | updateExternalIp
  | findUnprotectedIngress | findAddress =>
      cases hBuild
      trivial

theorem truthful_of_search
    {v : Visit}
    (hVisit : v = Visit.unchanged ∨ ∃ fs, v = Visit.found fs) :
    v.Truthful t := by
  apply Visit.truthful_of_root?_eq_none
  rcases hVisit with rfl | ⟨fs, rfl⟩ <;> rfl

/- What any recipe rewrites is another document afterwards. -/
theorem truthful_visit
    {r : Recipe}
    {v : Visit}
    (hForm : r.WellFormed)
    (hKeys : t.UniqueKeys)
    (hVisit : r.visit t = .ok v) :
    v.Truthful t := by
  cases r with
  | addConfiguration r =>
      cases hVisit
      exact AddedConfiguration.truthful_visit hForm hKeys
  | capQuantity l => exact QuantityLimit.truthful_cap hKeys hVisit
  | updateImage r =>
      cases hVisit
      exact r.truthful_visit hKeys
  | changeVersion r =>
      cases hVisit
      exact r.truthful_visit
  | updateExternalIp r =>
      cases hVisit
      exact r.truthful_visit
  | addRule r =>
      cases hVisit
      exact r.truthful_visit t
  | findQuantity l | findRatio l =>
      apply truthful_of_search
      rcases exists_of_bind_eq_ok hVisit with ⟨_, _, hDone⟩
      cases hDone
      exact Or.inr ⟨_, rfl⟩
  | findMissingConfiguration r =>
      apply truthful_of_search
      cases hVisit
      unfold MissingConfiguration.visit
      split
      · exact Or.inr ⟨_, rfl⟩
      · exact Or.inl rfl
  | findServiceType type =>
      apply truthful_of_search
      cases hVisit
      unfold Service.findType
      split
      · split
        · exact Or.inr ⟨_, rfl⟩
        · exact Or.inl rfl
      · exact Or.inl rfl
  | findUnprotectedIngress =>
      apply truthful_of_search
      cases hVisit
      unfold Ingress.findUnprotected
      split
      · exact Or.inr ⟨_, rfl⟩
      · exact Or.inl rfl
  | findImage | findTags | findMissingDigest | searchAnnotations
  | checkEntry | findExternalIps | findAddress =>
      cases hVisit
      exact truthful_of_search (Or.inr ⟨_, rfl⟩)

end Recipe

end ManifestRecipes
