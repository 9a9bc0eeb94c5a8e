import ManifestRecipes.Pattern.Reading
import ManifestRecipes.Proofs.Pattern
import ManifestRecipes.Proofs.Pattern.Form

/-
  Patterns between anchors.

  A pattern that is well formed by itself stands for the same
  when it is put into a group between the anchors of the text.

  Key definitions include:
    * `Pattern.Form.anchored`
    * `Pattern.whole`

  Main declarations:
    * `Pattern.Form.eq_anchored_of_read?`
    * `Pattern.Form.meaning_anchored`
    * `Pattern.occursIn_whole_iff`
    * `Pattern.occursIn_anchored_iff`
-/

namespace ManifestRecipes

namespace Pattern

open Reader

------------------------------------------------------------
-- Patterns between Anchors
------------------------------------------------------------

/- A form in a group between the anchors. -/
def Form.anchored (f : Form) : Form :=
  .choice [.sequence [.anchor .lineStart, .group [] f, .anchor .lineEnd]]

/- The anchor and the beginning of the group come before the pattern. -/
theorem run_forms_anchored (cs : List Char) (n : Nat) :
    (forms [] [] (n + 2)).run ⟨anchored cs, false, []⟩ =
      (do
        let f ← forms [] [] n
        expect ')'
        modify fun s => { s with spaced := false }
        forms [] [.group [] f, .anchor .lineStart] n : Reader Form).run
          ⟨cs ++ groupEnd true, false, []⟩ := by
  rfl

/- Behind the group comes the other anchor. -/
theorem run_forms_groupEnd
    (f : Form)
    (n : Nat)
    (spaced : Bool)
    (names : List String) :
    (do
      expect ')'
      modify fun s => { s with spaced := false }
      forms [] [.group [] f, .anchor .lineStart] (n + 2) :
        Reader Form).run ⟨groupEnd true, spaced, names⟩ =
      some (f.anchored, ⟨[], false, names⟩) := by
  rfl

/- A form is read when nothing is left over. -/
theorem Form.read?_eq_some_iff
    {cs : List Char}
    {f : Form} :
    Form.read? cs = some f ↔
      ∃ s, (forms [] [] (cs.length + 1)).run ⟨cs, false, []⟩ =
        some (f, s) ∧ s.rest = [] := by
  unfold Form.read?
  cases (forms [] [] (cs.length + 1)).run ⟨cs, false, []⟩ with
  | none => simp
  | some done =>
      rcases done with ⟨g, s⟩
      by_cases hEnd : s.rest = []
      · simp [hEnd]
      · simp [hEnd, and_comm]

/-
  A form that is also read without the anchors is read up to
  the end of their group, and in the group.
-/
theorem Form.exists_run_of_read?
    {cs : List Char}
    {f g : Form}
    (hAlone : Form.read? cs = some f)
    (hAnchored : Form.read? (Pattern.anchored cs) = some g) :
    ∃ n u, (forms [] [] n).run ⟨cs ++ groupEnd true, false, []⟩ =
        some (f, u) ∧
      u.rest = groupEnd true ∧ g = f.anchored := by
  rcases read?_eq_some_iff.mp hAlone with ⟨s, hRun, hEnd⟩
  rcases read?_eq_some_iff.mp hAnchored with ⟨u, hRun', _⟩
  have hFuel :
      (Pattern.anchored cs).length + 1 = cs.length + 5 + 2 := by
    simp [Pattern.anchored]
  rw [hFuel, run_forms_anchored, run_bind_eq_some_iff] at hRun'
  rcases hRun' with ⟨_, _, hGroup, hRest⟩
  rcases prolongs_forms (by omega : cs.length + 1 ≤ cs.length + 5)
    [] [] _ true f s (Nat.zero_le _) hRun with ⟨b, hGroup'⟩
  cases hGroup'.symm.trans hGroup
  rcases s with ⟨_, spaced, names⟩
  cases hEnd
  cases b with
  | false => cases hRest
  | true =>
      cases (run_forms_groupEnd f (cs.length + 3) spaced names).symm.trans
        hRest
      exact ⟨_, _, hGroup', rfl, rfl⟩

/- So the form of the anchored pattern is made of it. -/
theorem Form.eq_anchored_of_read?
    {cs : List Char}
    {f g : Form}
    (hAlone : Form.read? cs = some f)
    (hAnchored : Form.read? (Pattern.anchored cs) = some g) :
    g = f.anchored := by
  rcases exists_run_of_read? hAlone hAnchored with ⟨_, _, _, _, hSame⟩
  exact hSame

/- A pattern that stands for the whole text or nothing. -/
def whole (q : Pattern) : Pattern :=
  .choice
    (.sequence (.assertion .textStart)
      (.sequence q (.sequence (.assertion .textEnd) .empty)))
    (.oneOf .empty)

/- The anchors are those of the text, whatever is set in the group. -/
theorem Form.meaning_anchored
    {f : Form}
    {q : Pattern}
    {mode : Mode}
    (hMeaning : f.meaning .initial = some (q, mode)) :
    f.anchored.meaning .initial = some (q.whole, .initial) := by
  have hLines : Mode.initial.lines = false := rfl
  simp [Form.anchored, Form.meaning, Form.choiceMeaning,
    Form.sequenceMeaning, Mode.setAll, hMeaning, Anchor.assertion,
    hLines, whole]

/- The anchored pattern stands for texts that the pattern fits. -/
theorem fits_whole_iff
    {q : Pattern}
    {before s after : List Char} :
    q.whole.Fits before s after ↔
      before = [] ∧ after = [] ∧ q.FitsAll s := by
  constructor
  · intro hFits
    rcases hFits with hFits | ⟨c, _, hNone⟩
    · rcases hFits with ⟨_, _, rfl, ⟨rfl, hStart⟩, s, _, rfl, hFits,
        _, _, rfl, ⟨rfl, hEnd⟩, rfl⟩
      simp only [Assertion.holds, List.append_nil, List.nil_append,
        Option.isNone_iff_eq_none, List.getLast?_eq_none_iff,
        List.head?_eq_none_iff] at hStart hEnd hFits ⊢
      subst hStart hEnd
      exact ⟨rfl, rfl, hFits⟩
    · cases hNone
  · intro hFits
    rcases hFits with ⟨rfl, rfl, hFits⟩
    exact .inl ⟨[], s, rfl, ⟨rfl, rfl⟩, s, [], by simp, hFits,
      [], [], rfl, ⟨rfl, rfl⟩, rfl⟩

/- So it occurs in these texts only. -/
theorem occursIn_whole_iff
    {q : Pattern}
    {text : List Char} :
    q.whole.occursIn text = true ↔ q.FitsAll text := by
  simp only [occursIn_iff, fits_whole_iff]
  constructor
  · intro hFound
    rcases hFound with ⟨_, s, _, rfl, rfl, rfl, hFits⟩
    simpa using hFits
  · intro hFits
    exact ⟨[], text, [], by simp, rfl, rfl, hFits⟩

/-
  A pattern is the meaning of the form that is read, unless this
  is nested too deeply or the pattern is too large.
-/
theorem ofChars?_eq_some_iff
    {cs : List Char}
    {p : Pattern} :
    ofChars? cs = some p ↔
      ∃ f mode, Form.read? cs = some f ∧
        f.meaning .initial = some (p, mode) ∧
        f.depth ≤ depthLimit ∧ p.weight ≤ weightLimit := by
  simp only [ofChars?, Option.bind_eq_bind, Option.bind_eq_some_iff,
    Option.ite_none_right_eq_some, Option.some.injEq, Prod.exists,
    Bool.and_eq_true, decide_eq_true_eq]
  constructor
  · rintro ⟨f, hForm, q, mode, hMeaning, hLimits, rfl⟩
    exact ⟨f, mode, hForm, hMeaning, hLimits⟩
  · rintro ⟨f, mode, hForm, hMeaning, hLimits⟩
    exact ⟨f, hForm, p, mode, hMeaning, hLimits, rfl⟩

/-
  A pattern between the anchors occurs in the texts for which the
  pattern stands from their first to their last character.
-/
theorem occursIn_anchored_iff
    {cs text : List Char}
    {p q : Pattern}
    (hAlone : ofChars? cs = some q)
    (hAnchored : ofChars? (anchored cs) = some p) :
    p.occursIn text = true ↔ q.FitsAll text := by
  rcases ofChars?_eq_some_iff.mp hAlone with
    ⟨f, _, hForm, hMeaning, _⟩
  rcases ofChars?_eq_some_iff.mp hAnchored with
    ⟨g, _, hForm', hMeaning', _⟩
  rw [Form.eq_anchored_of_read? hForm hForm',
    Form.meaning_anchored hMeaning] at hMeaning'
  cases hMeaning'
  exact occursIn_whole_iff

end Pattern

end ManifestRecipes
