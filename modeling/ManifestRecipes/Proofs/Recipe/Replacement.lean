import ManifestRecipes.Proofs.Recipe.Change
import ManifestRecipes.Proofs.Recipe.Independence

/-
  Texts that are replaced by others.

  The version of a document and the external addresses of a
  service are replaced wherever they have the old text.  A null
  has no text.  What takes the place of a text may be read as a
  number, a truth value or null; as whatever it is read, the
  next visit has nothing left to do.

  Key definitions include:
    * `Visit.SwapsTexts`

  Main declarations:
    * `TextRule.Swaps.swapsTexts`
    * `Recipe.visits_swap_texts`
-/

namespace ManifestRecipes

variable {t u : Tree} {v w : Visit} {R : TextRule}
variable {old new : String}

/-
  A visit puts a text in the place of another one, wherever the
  other one is the text at one of some places, and does nothing
  else: other nodes are the same, sequences are as long as
  before, and mappings have the same keys in the same order.
-/
structure Visit.SwapsTexts
    (Place : Path → Prop)
    (old new : String)
    (t : Tree)
    (v : Visit) : Prop where
  reported : v.root?.isSome = true ↔
    old ≠ new ∧ ∃ p s, t.HoldsText Place p s ∧ s.text = old
  swapped : ∀ p s, t.HoldsText Place p s → s.text = old →
    ∃ s', (v.result t).lookup? p = some (.scalar s') ∧
      s'.text = new ∧ (old ≠ new → s' = s.withText new)
  others : t.SameOutside
    (fun p => ∃ s, t.HoldsText Place p s ∧ s.text = old)
    (v.result t)
  silent : v.findings = Findings.empty

------------------------------------------------------------
-- Visits That Follow a Rule
------------------------------------------------------------

/- A document changes only where a rule asks for a text. -/
theorem TextRule.Yields.sameOutside (hYields : R.Yields t u) :
    t.SameOutside (fun p => ∃ text, R.Asks t ⟨p, text⟩) u := by
  rcases hYields with ⟨es, hAsked, rfl⟩
  have hEdited : ∀ p,
      (∃ e ∈ es, e.path = p) ↔ ∃ text, R.Asks t ⟨p, text⟩ := by
    intro p
    constructor
    · rintro ⟨e, hMember, rfl⟩
      exact ⟨e.text, (hAsked e).mp hMember⟩
    · rintro ⟨text, hAsks⟩
      exact ⟨_, (hAsked _).mpr hAsks, rfl⟩
  have hSame := Tree.sameOutside_rewriteScalars? t es
  simp only [hEdited] at hSame
  exact hSame

namespace TextRule.Swaps

/- A visit that follows such a rule and reports truly swaps texts. -/
theorem swapsTexts
    (hSwaps : R.Swaps old new)
    (hYields : R.Yields t (v.result t))
    (hTruthful : v.Truthful t)
    (hSilent : v.findings = Findings.empty) :
    v.SwapsTexts (R.Place t) old new t := by
  have hAsked : ∀ p, (∃ text, R.Asks t ⟨p, text⟩) ↔
      ∃ s, t.HoldsText (R.Place t) p s ∧ s.text = old := by
    simp [hSwaps.asks_iff]
  have hOthers := hYields.sameOutside
  simp only [hAsked] at hOthers
  refine ⟨?_, ?_, hOthers, hSilent⟩
  · rw [hTruthful.isSome_iff, hSwaps.ne_iff hYields]
  · intro p s hHolds hOld
    have hRevised := hYields.lookup?_of_holdsText
      (not_fails hSwaps.faultless) hHolds
    rw [hSwaps.revised_eq, if_pos hOld] at hRevised
    refine ⟨_, hRevised, s.retext_text new, ?_⟩
    intro hOther
    exact if_neg (hOld ▸ hOther)

/- The visit after it reports no change. -/
theorem visit_again
    (hSwaps : R.Swaps old new)
    (hFirst : R.Yields t u)
    (hSecond : R.Yields u (w.result u))
    (hTruthful : w.Truthful u)
    (hSilent : w.findings = Findings.empty) :
    w = Visit.unchanged := by
  have hKept : w.result u = u := hSwaps.yields_again hFirst hSecond
  have hNone : w.root? = none := by
    rw [← Option.not_isSome_iff_eq_none, hTruthful.isSome_iff,
      not_not]
    exact hKept
  cases w
  cases hNone
  cases hSilent
  rfl

end TextRule.Swaps

------------------------------------------------------------
-- Versions and External Addresses
------------------------------------------------------------

theorem VersionChange.swaps_rule (r : VersionChange) :
    r.rule.Swaps r.old r.new := by
  exact ⟨fun _ => id, fun _ => rfl⟩

theorem VersionChange.findings_visit (r : VersionChange) :
    (r.visit t).findings = Findings.empty := by
  unfold visit
  split <;> rfl

theorem ExternalIpUpdate.swaps_rule (r : ExternalIpUpdate) :
    r.rule.Swaps r.old r.new := by
  exact ⟨fun _ => id, fun _ => rfl⟩

/-
  A visit replaces the version of a document, or the external
  addresses of a service, just where the old text is, and the
  next visit reports no change.
-/
theorem Recipe.visits_swap_texts
    (old new : String)
    (t : Tree)
    (hKeys : t.UniqueKeys) :
    (∃ recipe v,
      Options.build (.changeVersion ⟨old, new⟩) = .ok recipe ∧
      recipe.visit t = .ok v ∧
      v.SwapsTexts (fun p => p = [.field "apiVersion"]) old new t ∧
      recipe.visit (v.result t) = .ok Visit.unchanged) ∧
    ∃ recipe v,
      Options.build (.updateExternalIp ⟨old, new⟩) = .ok recipe ∧
      recipe.visit t = .ok v ∧
      v.SwapsTexts
        (fun p => t.textAt? "kind" = some "Service" ∧ ∃ i,
          p = [.field "spec", .field "externalIPs", .index i])
        old new t ∧
      recipe.visit (v.result t) = .ok Visit.unchanged := by
  constructor
  · let r : VersionChange := ⟨old, new⟩
    have hYields := r.yields_result (t := t)
    refine ⟨_, r.visit t, rfl, rfl, ?_, ?_⟩
    · exact r.swaps_rule.swapsTexts hYields r.truthful_visit
        r.findings_visit
    · exact congrArg Except.ok (r.swaps_rule.visit_again hYields
        r.yields_result r.truthful_visit r.findings_visit)
  · let r : ExternalIpUpdate := ⟨old, new⟩
    have hYields := r.yields_result hKeys
    have hAfter : ((r.visit t).result t).UniqueKeys :=
      hYields.uniqueKeys hKeys
    have hSwapped := r.swaps_rule.swapsTexts hYields
      r.truthful_visit rfl
    refine ⟨_, r.visit t, rfl, rfl, ?_, ?_⟩
    · simp only [← Service.isService_iff]
      exact hSwapped
    · exact congrArg Except.ok (r.swaps_rule.visit_again hYields
        (r.yields_result hAfter) r.truthful_visit rfl)

/-
  Two of three addresses of a service, a text and a number, are
  replaced by a null.
-/
theorem Recipe.visits_swap_texts_service :
    let t : Tree := .mapping
      [("kind", .string "Service"), ("spec", .mapping
        [("externalIPs", .sequence
          [.string "7", .string "8", .scalar (.infer "7")])])]
    let u : Tree := .mapping
      [("kind", .string "Service"), ("spec", .mapping
        [("externalIPs", .sequence
          [.string "~", .string "8", .scalar (.infer "~")])])]
    t.UniqueKeys ∧
    ∃ recipe v,
      Options.build (.updateExternalIp ⟨"7", "~"⟩) = .ok recipe ∧
      recipe.visit t = .ok v ∧
      v.SwapsTexts
        (fun p => t.textAt? "kind" = some "Service" ∧ ∃ i,
          p = [.field "spec", .field "externalIPs", .index i])
        "7" "~" t ∧
      v.root? = some u ∧ recipe.visit u = .ok Visit.unchanged := by
  intro t u
  let r : ExternalIpUpdate := ⟨"7", "~"⟩
  have hKeys : t.UniqueKeys := by decide
  have hDone : (r.visit t).root? = some u := by decide +kernel
  rcases (visits_swap_texts "7" "~" t hKeys).2 with
    ⟨recipe, v, hBuild, hVisit, hSwapped, hAgain⟩
  obtain rfl : Recipe.updateExternalIp r = recipe :=
    Except.ok.inj hBuild
  obtain rfl : r.visit t = v := Except.ok.inj hVisit
  rw [Visit.result, hDone] at hAgain
  exact ⟨hKeys, _, _, hBuild, hVisit, hSwapped, hDone, hAgain⟩

end ManifestRecipes
