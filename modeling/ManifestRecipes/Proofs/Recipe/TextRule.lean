import ManifestRecipes.Proofs.Recipe.Visit

/-
  Rules for the texts at some places of a document.

  A rule replaces texts at places that the kind of a document
  determines, each by itself, unless one of the texts there is
  at fault.  What it asks for depends on its own places only,
  so rules with different places do not disturb each other.
  Rules with the same places act on the texts there one after
  the other, and may do together what a third one does.  A rule
  that puts one text in the place of another has nothing left to
  do when it is applied once more.

  Key definitions include:
    * `TextRule`
    * `TextRule.Fails`
    * `TextRule.Asks`
    * `TextRule.Yields`
    * `TextRule.Apart`
    * `TextRule.revised`
    * `TextRule.Swaps`
    * `TextRule.Joins`

  Main declarations:
    * `TextRule.holdsText_iff_of_unedited`
    * `TextRule.Yields.fails_iff`
    * `TextRule.Yields.asks_iff`
    * `TextRule.Yields.commute`
    * `TextRule.Yields.eq_self_iff`
    * `TextRule.Swaps.ne_iff`
    * `TextRule.Swaps.yields_again`
    * `TextRule.Joins.not_fails`
    * `TextRule.Joins.yields_eq`
-/

namespace ManifestRecipes

/-
  The places of some texts, which texts there are at fault, and
  what the others are replaced by.  The kind of a document is
  at none of the places that it determines.
-/
structure TextRule where
  Place : Tree → Path → Prop
  Faulty : String → Prop
  replacement? : String → Option String
  place_congr : ∀ {t t' : Tree} {p : Path},
    t'.textAt? "kind" = t.textAt? "kind" → (Place t' p ↔ Place t p)
  not_place_kind : ∀ t : Tree, ¬ Place t [.field "kind"]

namespace TextRule

variable {A B C R : TextRule} {t u v : Tree} {es : List Edit}

------------------------------------------------------------
-- What a Rule Asks For
------------------------------------------------------------

/- A text at one of the places is at fault. -/
def Fails (R : TextRule) (t : Tree) : Prop :=
  ∃ p s, t.HoldsText (R.Place t) p s ∧ R.Faulty s.text

/- The text at a place is to be replaced. -/
structure Asks (R : TextRule) (t : Tree) (e : Edit) : Prop where
  sound : ¬ R.Fails t
  replaces : ∃ s, t.HoldsText (R.Place t) e.path s ∧
    R.replacement? s.text = some e.text

/- A document becomes another one by the edits that are asked for. -/
def Yields (R : TextRule) (t u : Tree) : Prop :=
  ∃ es : List Edit, (∀ e, e ∈ es ↔ R.Asks t e) ∧
    (t.rewriteScalars? es).getD t = u

/- No place belongs to both rules. -/
def Apart (A B : TextRule) : Prop :=
  ∀ t p, A.Place t p → ¬ B.Place t p

/- Without texts at fault no rule fails. -/
theorem not_fails (hSound : ∀ text, ¬ R.Faulty text) :
    ¬ R.Fails t := by
  intro hFails
  rcases hFails with ⟨_, s, _, hFaulty⟩
  exact hSound s.text hFaulty

theorem asks_iff_of_not_fails
    {e : Edit}
    (hSound : ¬ R.Fails t) :
    R.Asks t e ↔ ∃ s, t.HoldsText (R.Place t) e.path s ∧
      R.replacement? s.text = some e.text := by
  constructor
  · intro hAsks
    exact hAsks.replaces
  · intro hReplaces
    exact ⟨hSound, hReplaces⟩

/- At each path one text is asked for. -/
theorem consistent_of_asks (hAsks : ∀ e ∈ es, R.Asks t e) :
    Edit.Consistent es := by
  intro e hLeft f hRight hPath
  rcases (hAsks e hLeft).replaces with ⟨s, hHolds, hText⟩
  rcases (hAsks f hRight).replaces with ⟨s', hHolds', hText'⟩
  have hSame : s = s' :=
    Tree.scalar_eq_of_lookup? hHolds.node
      (hPath ▸ hHolds'.node)
  rw [← hSame, hText, Option.some.injEq] at hText'
  exact hText'

theorem path_ne_kind_of_asks
    (hAsks : ∀ e ∈ es, R.Asks t e) :
    ∀ e ∈ es, e.path ≠ [.field "kind"] := by
  intro e hMember hPath
  rcases (hAsks e hMember).replaces with ⟨_, hHolds, _⟩
  exact R.not_place_kind t (hPath ▸ hHolds.place)

/- Edits of rules that are apart agree when those of each do. -/
theorem Apart.consistent_append
    {fs : List Edit}
    (hApart : A.Apart B)
    (hLeft : ∀ e ∈ es, A.Asks t e)
    (hRight : ∀ e ∈ fs, B.Asks t e) :
    Edit.Consistent (es ++ fs) := by
  have hNever : ∀ e ∈ es, ∀ f ∈ fs, e.path ≠ f.path := by
    intro e hMember f hMember' hPath
    rcases (hLeft e hMember).replaces with ⟨_, hHolds, _⟩
    rcases (hRight f hMember').replaces with ⟨_, hHolds', _⟩
    exact hApart t e.path hHolds.place (hPath ▸ hHolds'.place)
  intro e hMember f hMember' hPath
  rcases List.mem_append.mp hMember with hFirst | hFirst <;>
    rcases List.mem_append.mp hMember' with hSecond | hSecond
  · exact consistent_of_asks hLeft e hFirst f hSecond hPath
  · exact absurd hPath (hNever e hFirst f hSecond)
  · exact absurd hPath.symm (hNever f hSecond e hFirst)
  · exact consistent_of_asks hRight e hFirst f hSecond hPath

------------------------------------------------------------
-- What Other Rules Leave Alone
------------------------------------------------------------

/- Texts at places that no edit is at are held as before. -/
theorem holdsText_iff_of_unedited
    {p : Path}
    {s : Scalar}
    (hSame : Edit.Consistent es)
    (hKind : ∀ e ∈ es, e.path ≠ [.field "kind"])
    (hPlaces : ∀ e ∈ es, ¬ R.Place t e.path) :
    ((t.rewriteScalars? es).getD t).HoldsText
        (R.Place ((t.rewriteScalars? es).getD t)) p s ↔
      t.HoldsText (R.Place t) p s := by
  have hPlace :
      R.Place ((t.rewriteScalars? es).getD t) p ↔ R.Place t p :=
    R.place_congr (Tree.textAt?_rewriteScalars? hKind)
  constructor
  · rintro ⟨hAt, hNode, hText⟩
    have hHere := hPlace.mp hAt
    rcases Tree.lookup?_rewritten_eq_scalar hSame hNode with
      ⟨s', hOld, rfl | ⟨e, hMember, rfl, _⟩⟩
    · exact ⟨hHere, hOld, hText⟩
    · exact absurd hHere (hPlaces e hMember)
  · rintro ⟨hAt, hNode, hText⟩
    refine ⟨hPlace.mpr hAt, ?_, hText⟩
    refine Tree.lookup?_of_no_edit ?_ hNode
    rintro e hMember rfl
    exact hPlaces e hMember hAt

namespace Yields

/- A rule keeps the places of every rule. -/
theorem place_iff
    {p : Path}
    (hYields : A.Yields t u) :
    R.Place u p ↔ R.Place t p := by
  rcases hYields with ⟨es, hAsked, rfl⟩
  apply R.place_congr
  apply Tree.textAt?_rewriteScalars?
  exact path_ne_kind_of_asks fun e => (hAsked e).mp

/- A rule leaves alone the texts at the places of another one. -/
theorem holdsText_iff
    {p : Path}
    {s : Scalar}
    (hYields : A.Yields t u)
    (hApart : A.Apart B) :
    u.HoldsText (B.Place u) p s ↔ t.HoldsText (B.Place t) p s := by
  rcases hYields with ⟨es, hAsked, rfl⟩
  have hAsks : ∀ e ∈ es, A.Asks t e := fun e => (hAsked e).mp
  apply holdsText_iff_of_unedited
  · exact consistent_of_asks hAsks
  · exact path_ne_kind_of_asks hAsks
  · intro e hMember
    rcases (hAsks e hMember).replaces with ⟨_, hHolds, _⟩
    exact hApart t e.path hHolds.place

/- So the other one fails on the same documents. -/
theorem fails_iff
    (hYields : A.Yields t u)
    (hApart : A.Apart B) :
    B.Fails u ↔ B.Fails t := by
  simp only [Fails, hYields.holdsText_iff hApart]

/- And it asks for the same edits. -/
theorem asks_iff
    {e : Edit}
    (hYields : A.Yields t u)
    (hApart : A.Apart B) :
    B.Asks u e ↔ B.Asks t e := by
  constructor <;> rintro ⟨hSound, s, hHolds, hText⟩
  · exact ⟨fun hFails => hSound ((hYields.fails_iff hApart).mpr hFails),
      s, (hYields.holdsText_iff hApart).mp hHolds, hText⟩
  · exact ⟨fun hFails => hSound ((hYields.fails_iff hApart).mp hFails),
      s, (hYields.holdsText_iff hApart).mpr hHolds, hText⟩

theorem uniqueKeys
    (hYields : R.Yields t u)
    (hKeys : t.UniqueKeys) :
    u.UniqueKeys := by
  rcases hYields with ⟨es, _, rfl⟩
  exact Tree.uniqueKeys_rewriteScalars? hKeys es

------------------------------------------------------------
-- Rules One After the Other
------------------------------------------------------------

/- Two rules that are apart make one list of edits. -/
theorem exists_edits
    (hApart : A.Apart B)
    (hFirst : A.Yields t u)
    (hSecond : B.Yields u v) :
    ∃ es : List Edit, Edit.Consistent es ∧
      (∀ e, e ∈ es ↔ A.Asks t e ∨ B.Asks t e) ∧
        (t.rewriteScalars? es).getD t = v := by
  have hAsks : ∀ e, B.Asks u e ↔ B.Asks t e :=
    fun _ => hFirst.asks_iff hApart
  rcases hFirst with ⟨es, hLeft, rfl⟩
  rcases hSecond with ⟨fs, hRight, rfl⟩
  simp only [hAsks] at hRight
  refine ⟨es ++ fs, ?_, ?_, Tree.rewriteScalars?_append_getD ..⟩
  · exact hApart.consistent_append (fun e => (hLeft e).mp)
      fun e => (hRight e).mp
  · intro e
    rw [List.mem_append, hLeft, hRight]

/- Rules that are apart yield the same in either order. -/
theorem commute
    {u' v' : Tree}
    (hApart : A.Apart B)
    (hLeft : A.Yields t u)
    (hRight : B.Yields u v)
    (hLeft' : B.Yields t u')
    (hRight' : A.Yields u' v') :
    v = v' := by
  have hApart' : B.Apart A :=
    fun t p hPlace hPlace' => hApart t p hPlace' hPlace
  rcases exists_edits hApart hLeft hRight with
    ⟨es, hSame, hMembers, rfl⟩
  rcases exists_edits hApart' hLeft' hRight' with
    ⟨fs, _, hMembers', rfl⟩
  apply Tree.rewriteScalars?_getD_congr hSame
  intro e
  rw [hMembers, hMembers', or_comm]

end Yields

------------------------------------------------------------
-- Rules at the Same Places
------------------------------------------------------------

/- What a rule makes of a scalar at one of its places. -/
def revised (R : TextRule) (s : Scalar) : Scalar :=
  match R.replacement? s.text with
  | some text => s.retext text
  | none => s

/- The edits that are asked for revise the scalars at the places. -/
theorem patch_scalar_of_holdsText
    {p : Path}
    {s : Scalar}
    (hAsked : ∀ e, e ∈ es ↔ R.Asks t e)
    (hSound : ¬ R.Fails t)
    (hHolds : t.HoldsText (R.Place t) p s) :
    (Edit.patch es).scalar p s = R.revised s := by
  have hTexts : ∀ e ∈ es, e.path = p →
      R.replacement? s.text = some e.text := by
    rintro e hMember rfl
    rcases ((hAsked e).mp hMember).replaces with
      ⟨s', hHolds', hText⟩
    rwa [Tree.scalar_eq_of_lookup? hHolds.node hHolds'.node]
  unfold revised
  cases hText : R.replacement? s.text with
  | none =>
      apply Edit.patch_scalar_of_no_edit
      intro e hMember hPath
      cases hText.symm.trans (hTexts e hMember hPath)
  | some text =>
      have hEdit : ⟨p, text⟩ ∈ es :=
        (hAsked _).mpr ⟨hSound, s, hHolds, hText⟩
      rw [Edit.patch_scalar_eq fun e hMember hPath =>
        Option.some.inj ((hTexts e hMember hPath).symm.trans hText)]
      exact if_pos ⟨_, hEdit, rfl⟩

/- They leave the other scalars alone. -/
theorem patch_scalar_of_not_holdsText
    {p : Path}
    {s : Scalar}
    (hAsked : ∀ e, e ∈ es ↔ R.Asks t e)
    (hNode : t.lookup? p = some (.scalar s))
    (hOther : ¬ t.HoldsText (R.Place t) p s) :
    (Edit.patch es).scalar p s = s := by
  apply Edit.patch_scalar_of_no_edit
  rintro e hMember rfl
  rcases ((hAsked e).mp hMember).replaces with ⟨s', hHolds, _⟩
  rw [Tree.scalar_eq_of_lookup? hNode hHolds.node] at hOther
  exact hOther hHolds

/- Where a rule fails, it yields the document itself. -/
theorem Yields.eq_of_fails
    (hYields : R.Yields t u)
    (hFails : R.Fails t) :
    u = t := by
  rcases hYields with ⟨es, hAsked, rfl⟩
  obtain rfl : es = [] := by
    rw [List.eq_nil_iff_forall_not_mem]
    intro e hMember
    exact ((hAsked e).mp hMember).sound hFails
  rfl

theorem Yields.lookup?_of_holdsText
    {p : Path}
    {s : Scalar}
    (hYields : R.Yields t u)
    (hSound : ¬ R.Fails t)
    (hHolds : t.HoldsText (R.Place t) p s) :
    u.lookup? p = some (.scalar (R.revised s)) := by
  rcases hYields with ⟨es, hAsked, rfl⟩
  exact Tree.lookup?_rewritten_scalar_iff.mpr ⟨s, hHolds.node,
    patch_scalar_of_holdsText hAsked hSound hHolds⟩

/- What it holds at its places afterwards are revised texts. -/
theorem Yields.exists_holdsText
    {p : Path}
    {s' : Scalar}
    (hYields : R.Yields t u)
    (hSound : ¬ R.Fails t)
    (hHolds' : u.HoldsText (R.Place u) p s') :
    ∃ s, t.HoldsText (R.Place t) p s ∧ R.revised s = s' := by
  have hHere : R.Place t p := hYields.place_iff.mp hHolds'.place
  rcases hYields with ⟨es, hAsked, rfl⟩
  rcases Tree.lookup?_rewritten_scalar_iff.mp hHolds'.node with
    ⟨s, hOld, rfl⟩
  have hHolds : t.HoldsText (R.Place t) p s := by
    refine ⟨hHere, hOld, ?_⟩
    by_contra hNull
    have hText := hHolds'.text
    rw [patch_scalar_of_not_holdsText hAsked hOld
      fun hHolds => hNull hHolds.text] at hText
    exact hNull hText
  exact ⟨s, hHolds,
    (patch_scalar_of_holdsText hAsked hSound hHolds).symm⟩

/- The document stays as it is when no text at its places is revised. -/
theorem Yields.eq_self_iff
    (hYields : R.Yields t u)
    (hSound : ¬ R.Fails t) :
    u = t ↔
      ∀ p s, t.HoldsText (R.Place t) p s → R.revised s = s := by
  constructor
  · rintro rfl p s hHolds
    exact Tree.scalar_eq_of_lookup?
      (hYields.lookup?_of_holdsText hSound hHolds) hHolds.node
  · intro hKept
    rcases hYields with ⟨es, hAsked, rfl⟩
    rw [Tree.rewriteScalars?_getD]
    apply Tree.patched_eq_self
    refine ⟨?_, fun _ _ _ => rfl⟩
    intro p s hNode
    by_cases hHolds : t.HoldsText (R.Place t) p s
    · rw [patch_scalar_of_holdsText hAsked hSound hHolds]
      exact hKept p s hHolds
    · exact patch_scalar_of_not_holdsText hAsked hNode hHolds

------------------------------------------------------------
-- One Text in the Place of Another
------------------------------------------------------------

/- A rule that puts one text in the place of another one. -/
structure Swaps (R : TextRule) (old new : String) : Prop where
  faultless : ∀ text, ¬ R.Faulty text
  replacement : ∀ text,
    R.replacement? text = if text = old then some new else none

namespace Swaps

variable {old new : String}

/- It asks for the new text wherever the old one is. -/
theorem asks_iff
    {e : Edit}
    (hSwaps : R.Swaps old new) :
    R.Asks t e ↔
      (∃ s, t.HoldsText (R.Place t) e.path s ∧ s.text = old) ∧
        e.text = new := by
  rw [asks_iff_of_not_fails (not_fails hSwaps.faultless)]
  simp only [hSwaps.replacement, Option.ite_none_right_eq_some,
    Option.some.injEq, ← and_assoc, exists_and_right,
    @eq_comm _ new]

/- Scalars with the old text get the new one, and others are kept. -/
theorem revised_eq
    (hSwaps : R.Swaps old new)
    (s : Scalar) :
    R.revised s = if s.text = old then s.retext new else s := by
  rw [revised, hSwaps.replacement]
  split_ifs <;> rfl

/- Afterwards none has the old text. -/
theorem text_revised_ne
    (hSwaps : R.Swaps old new)
    (hOther : old ≠ new)
    (s : Scalar) :
    (R.revised s).text ≠ old := by
  rw [hSwaps.revised_eq]
  split_ifs with hOld
  · rw [Scalar.retext_text]
    exact hOther.symm
  · exact hOld

/- A document changes when it holds the old text and the new one is another. -/
theorem ne_iff
    (hSwaps : R.Swaps old new)
    (hYields : R.Yields t u) :
    u ≠ t ↔
      old ≠ new ∧
        ∃ p s, t.HoldsText (R.Place t) p s ∧ s.text = old := by
  rw [ne_eq, hYields.eq_self_iff (not_fails hSwaps.faultless)]
  constructor
  · intro hRevised
    push Not at hRevised
    rcases hRevised with ⟨p, s, hHolds, hOther⟩
    rw [hSwaps.revised_eq, ne_eq, ite_eq_right_iff,
      Classical.not_imp] at hOther
    rcases hOther with ⟨hOld, hOther⟩
    refine ⟨?_, p, s, hHolds, hOld⟩
    rintro rfl
    exact hOther (if_pos hOld)
  · rintro ⟨hOther, p, s, hHolds, hOld⟩ hKept
    have hText := hSwaps.text_revised_ne hOther s
    rw [hKept p s hHolds] at hText
    exact hText hOld

/- Applied once more, the rule changes nothing. -/
theorem yields_again
    (hSwaps : R.Swaps old new)
    (hFirst : R.Yields t u)
    (hSecond : R.Yields u v) :
    v = u := by
  by_contra hChanged
  rcases (hSwaps.ne_iff hSecond).mp hChanged with
    ⟨hOther, p, s', hHolds', hOld⟩
  rcases hFirst.exists_holdsText (not_fails hSwaps.faultless) hHolds'
    with ⟨s, _, rfl⟩
  exact hSwaps.text_revised_ne hOther s hOld

end Swaps

------------------------------------------------------------
-- Rules That Join
------------------------------------------------------------

/-
  Two rules join into a third one: they have its places, the
  same texts are at fault for them, and of a text that is not
  at fault the first makes another one that is not, of which
  the second makes what the third makes of it at once.
-/
structure Joins (A B C : TextRule) : Prop where
  place : A.Place = C.Place ∧ B.Place = C.Place
  faulty : A.Faulty = C.Faulty ∧ B.Faulty = C.Faulty
  sound : ∀ s, s.isNull = false → ¬ C.Faulty s.text →
    (A.revised s).isNull = false ∧ ¬ C.Faulty (A.revised s).text
  revised : ∀ s, s.isNull = false → ¬ C.Faulty s.text →
    B.revised (A.revised s) = C.revised s

namespace Joins

/- All three fail on the same documents. -/
theorem fails_iff (hJoins : Joins A B C) :
    (A.Fails t ↔ C.Fails t) ∧ (B.Fails t ↔ C.Fails t) := by
  unfold Fails
  rw [hJoins.place.1, hJoins.place.2, hJoins.faulty.1,
    hJoins.faulty.2]
  exact ⟨Iff.rfl, Iff.rfl⟩

/- The first rule leaves revised texts at the places. -/
theorem holdsText_iff
    {p : Path}
    {s' : Scalar}
    (hJoins : Joins A B C)
    (hYields : A.Yields t u)
    (hSound : ¬ C.Fails t) :
    u.HoldsText (B.Place u) p s' ↔
      ∃ s, t.HoldsText (C.Place t) p s ∧ A.revised s = s' := by
  have hFirst : ¬ A.Fails t := hSound ∘ hJoins.fails_iff.1.mp
  rw [hJoins.place.2, ← hJoins.place.1]
  constructor
  · exact hYields.exists_holdsText hFirst
  · rintro ⟨s, hHolds, rfl⟩
    refine ⟨hYields.place_iff.mpr hHolds.place,
      hYields.lookup?_of_holdsText hFirst hHolds, ?_⟩
    rw [hJoins.place.1] at hHolds
    exact (hJoins.sound s hHolds.text
      fun hFaulty => hSound ⟨p, s, hHolds, hFaulty⟩).1

/- The second rule does not fail behind the first. -/
theorem not_fails
    (hJoins : Joins A B C)
    (hYields : A.Yields t u)
    (hSound : ¬ C.Fails t) :
    ¬ B.Fails u := by
  rintro ⟨p, s', hHolds', hFaulty⟩
  rcases (hJoins.holdsText_iff hYields hSound).mp hHolds' with
    ⟨s, hHolds, rfl⟩
  rw [hJoins.faulty.2] at hFaulty
  exact (hJoins.sound s hHolds.text
    fun hFaulty => hSound ⟨p, s, hHolds, hFaulty⟩).2 hFaulty

/- Edits of the first rule and then the second are one patch. -/
theorem agreeOn
    {fs gs : List Edit}
    (hJoins : Joins A B C)
    (hSound : ¬ C.Fails t)
    (hFirst : ∀ e, e ∈ es ↔ A.Asks t e)
    (hSecond : ∀ e, e ∈ fs ↔ B.Asks ((t.rewriteScalars? es).getD t) e)
    (hBoth : ∀ e, e ∈ gs ↔ C.Asks t e) :
    Patch.AgreeOn t (Edit.patch (es ++ fs)) (Edit.patch gs) := by
  have hYields : A.Yields t ((t.rewriteScalars? es).getD t) :=
    ⟨es, hFirst, rfl⟩
  refine ⟨?_, fun _ _ _ => rfl⟩
  intro p s hNode
  rw [Edit.patch_append_scalar_eq]
  by_cases hHolds : t.HoldsText (C.Place t) p s
  · have hHolds' := (hJoins.holdsText_iff hYields hSound).mpr
      ⟨s, hHolds, rfl⟩
    have hFaultless : ¬ C.Faulty s.text :=
      fun hFaulty => hSound ⟨p, s, hHolds, hFaulty⟩
    rw [patch_scalar_of_holdsText hBoth hSound hHolds,
      patch_scalar_of_holdsText hFirst
        (hSound ∘ hJoins.fails_iff.1.mp)
        (hJoins.place.1 ▸ hHolds),
      patch_scalar_of_holdsText hSecond
        (hJoins.not_fails hYields hSound) hHolds',
      hJoins.revised s hHolds.text hFaultless]
  · have hKept : (Edit.patch es).scalar p s = s :=
      patch_scalar_of_not_holdsText hFirst hNode
        (hJoins.place.1 ▸ hHolds)
    have hOther : ¬ ((t.rewriteScalars? es).getD t).HoldsText
        (B.Place ((t.rewriteScalars? es).getD t)) p s := by
      rintro ⟨hAt, _, hText⟩
      rw [hJoins.place.2, hYields.place_iff] at hAt
      exact hHolds ⟨hAt, hNode, hText⟩
    rw [hKept, patch_scalar_of_not_holdsText hBoth hNode hHolds]
    exact patch_scalar_of_not_holdsText hSecond
      (Tree.lookup?_rewritten_scalar_iff.mpr ⟨s, hNode, hKept⟩)
      hOther

/- One after the other they yield what the third rule yields. -/
theorem yields_eq
    {w : Tree}
    (hJoins : Joins A B C)
    (hFirst : A.Yields t u)
    (hSecond : B.Yields u v)
    (hBoth : C.Yields t w) :
    v = w := by
  by_cases hFails : C.Fails t
  · obtain rfl := hFirst.eq_of_fails (hJoins.fails_iff.1.mpr hFails)
    rw [hSecond.eq_of_fails (hJoins.fails_iff.2.mpr hFails),
      hBoth.eq_of_fails hFails]
  · rcases hFirst with ⟨es, hLeft, rfl⟩
    rcases hSecond with ⟨fs, hRight, rfl⟩
    rcases hBoth with ⟨gs, hThird, rfl⟩
    rw [← Tree.rewriteScalars?_append_getD,
      Tree.rewriteScalars?_getD, Tree.rewriteScalars?_getD]
    exact Tree.patched_congr
      (hJoins.agreeOn hFails hLeft hRight hThird)

end Joins

end TextRule

end ManifestRecipes
