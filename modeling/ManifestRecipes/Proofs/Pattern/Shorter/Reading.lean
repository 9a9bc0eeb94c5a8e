import ManifestRecipes.Proofs.Pattern.Reading
import ManifestRecipes.Proofs.Pattern.Shorter.Form

/-
  Patterns that stay between the anchors.

  A pattern that is accepted between the anchors is well formed
  by itself exactly when it leaves the end of their group to
  close it.

  Key definitions include:
    * `Pattern.StaysInGroup`

  Main declarations:
    * `Pattern.staysInGroup_iff`
-/

namespace ManifestRecipes

namespace Pattern

variable {cs : List Char} {f g : Form} {p q : Pattern}

/-
  A pattern between the anchors is read up to the parenthesis
  that stands behind it.
-/
def StaysInGroup (cs : List Char) : Prop :=
  ∃ n f s, (forms [] [] n).run ⟨cs ++ [')', '$'], false, []⟩ =
    some (f, s) ∧ s.rest = [')', '$']

/- Then a form can be read without the anchors. -/
theorem StaysInGroup.exists_form
    (hStays : StaysInGroup cs) :
    ∃ f, Form.read? cs = some f := by
  rcases hStays with ⟨n, f, u, hRun, hEnd⟩
  have hMany : 0 + 2 ≤ u.rest.length := by
    rw [hEnd]
    exact Nat.le_refl 2
  rcases (shortens_forms (Nat.le_refl (cs.length + 1)) [] []).shorter
    (s := ⟨cs, false, []⟩) (Nat.lt_succ_self _) hRun hMany with
    ⟨v, hRun', rfl⟩
  refine ⟨f, Form.read?_eq_some_iff.mpr ⟨v, hRun', ?_⟩⟩
  exact List.append_left_eq_self.mp hEnd

theorem staysInGroup_of_read?
    (hAlone : Form.read? cs = some f)
    (hAnchored : Form.read? (anchored cs) = some g) :
    StaysInGroup cs := by
  rcases Form.exists_run_of_read? hAlone hAnchored with
    ⟨n, u, hRun, hEnd, _⟩
  exact ⟨n, f, u, hRun, hEnd⟩

theorem Form.depth_le_anchored (f : Form) :
    f.depth ≤ f.anchored.depth := by
  simp only [Form.anchored, Form.depth, Form.depths]
  omega

theorem weight_le_whole (q : Pattern) :
    q.weight ≤ q.whole.weight := by
  simp only [whole, weight, isNever]
  omega

/- What stands between the anchors has a meaning if the whole has one. -/
theorem Form.exists_meaning_of_anchored
    {mode : Mode}
    (hMeaning : f.anchored.meaning .initial = some (p, mode)) :
    ∃ q mode', f.meaning .initial = some (q, mode') ∧ p = q.whole := by
  cases hForm : f.meaning .initial with
  | none =>
      simp [Form.anchored, Form.meaning, Form.choiceMeaning,
        Form.sequenceMeaning, Mode.setAll, hForm, Anchor.assertion]
        at hMeaning
  | some meaning =>
      rcases meaning with ⟨q, mode'⟩
      rw [Form.meaning_anchored hForm] at hMeaning
      cases hMeaning
      exact ⟨q, mode', rfl, rfl⟩

/-
  A pattern that is accepted between the anchors is one by
  itself exactly when it leaves their group open.
-/
theorem staysInGroup_iff
    (hAnchored : ofChars? (anchored cs) = some p) :
    StaysInGroup cs ↔ (ofChars? cs).isSome = true := by
  rcases ofChars?_eq_some_iff.mp hAnchored with
    ⟨g, mode, hForm, hMeaning, hDepth, hWeight⟩
  rw [Option.isSome_iff_exists]
  constructor
  · intro hStays
    rcases hStays.exists_form with ⟨f, hForm'⟩
    cases Form.eq_anchored_of_read? hForm' hForm
    rcases Form.exists_meaning_of_anchored hMeaning with
      ⟨q, mode', hMeaning', rfl⟩
    exact ⟨q, ofChars?_eq_some_iff.mpr ⟨f, mode', hForm', hMeaning',
      Nat.le_trans f.depth_le_anchored hDepth,
      Nat.le_trans q.weight_le_whole hWeight⟩⟩
  · rintro ⟨q, hAlone⟩
    rcases ofChars?_eq_some_iff.mp hAlone with ⟨f, _, hForm', _⟩
    exact staysInGroup_of_read? hForm' hForm

end Pattern

end ManifestRecipes
