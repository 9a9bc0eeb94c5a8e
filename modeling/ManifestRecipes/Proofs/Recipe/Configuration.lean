import ManifestRecipes.Proofs.Document
import ManifestRecipes.Proofs.Expression.Canonical
import ManifestRecipes.Proofs.Merge
import ManifestRecipes.Proofs.Recipe.Visit
import ManifestRecipes.Recipe.Configuration
import ManifestRecipes.Recipe.Options

/-
  Adding configuration twice.

  A second visit evaluates the expression on the tree that the
  first has grown.  Mappings that were there before lack
  nothing any more, but the expression may also select
  mappings within the entries that were added, and these may
  lack entries themselves.

  Key definitions include:
    * `AddedConfiguration.Marks`
    * `AddedConfiguration.Regrows`

  Main declarations:
    * `AddedConfiguration.visit_eq_unchanged_iff`
    * `AddedConfiguration.lacks_grown_iff`
    * `AddedConfiguration.unchanged_again_iff_not_regrows`
-/

namespace ManifestRecipes

namespace AddedConfiguration

------------------------------------------------------------
-- Selected Mappings
------------------------------------------------------------

/-
  A path is spelled by the expression, or leads from such a
  path to an item.
-/
def Marks (r : AddedConfiguration) (p : Path) : Prop :=
  Expression.Spells r.expression.segments p ∨
    ∃ q i, Expression.Spells r.expression.segments q ∧
      p = q ++ [.index i]

/- A mapping that is selected lacks entries. -/
def Lacks (r : AddedConfiguration) (t : Tree) : Prop :=
  ∃ p es, t.lookup? p = some (.mapping es) ∧
    r.Marks p ∧ Merge.lacking r.fragment es ≠ []

/-
  An entry that is added to a mapping holds a mapping that the
  expression selects as well and that lacks entries.
-/
def Regrows (r : AddedConfiguration) (t : Tree) : Prop :=
  ∃ p es k v q inner,
    t.lookup? p = some (.mapping es) ∧
      r.Marks p ∧
        (k, v) ∈ Merge.lacking r.fragment es ∧
          v.lookup? q = some (.mapping inner) ∧
            r.Marks (p ++ .field k :: q) ∧
              Merge.lacking r.fragment inner ≠ []

abbrev targets (r : AddedConfiguration) (t : Tree) : List Path :=
  (r.expression.select t).map Cursor.path

/- A recipe that can be built. -/
structure WellFormed (r : AddedConfiguration) : Prop where
  rooted : r.expression.Rooted
  fragment : (Tree.mapping r.fragment).UniqueKeys

theorem WellFormed.nodup_keys
    {r : AddedConfiguration}
    (hForm : r.WellFormed) :
    (Mapping.keys r.fragment).Nodup := by
  exact (Tree.uniqueKeys_mapping_iff.mp hForm.fragment).1

/- The entries to be added are those of a tree with unique keys. -/
theorem uniqueKeys_of_fragment
    {text : String}
    {es : Mapping Tree}
    (hFragment : Options.fragment text = .ok es) :
    (Tree.mapping es).UniqueKeys := by
  unfold Options.fragment at hFragment
  cases hRead : Tree.readYaml text with
  | error fault =>
      rw [hRead] at hFragment
      cases hFragment
  | ok t =>
      have hKeys := Tree.uniqueKeys_of_readYaml hRead
      rw [hRead] at hFragment
      cases t with
      | scalar s => cases hFragment
      | sequence xs => cases hFragment
      | mapping fs =>
          cases hFragment
          exact hKeys

/- Options that are accepted make a well-formed recipe. -/
theorem wellFormed_of_build
    {o : ConfigurationOptions}
    {r : AddedConfiguration}
    (hBuild : Options.addedConfiguration o = .ok r) :
    r.WellFormed := by
  rcases exists_of_bind_eq_ok hBuild with
    ⟨e, hExpression, hRest⟩
  by_cases hAbsolute : e.isAbsolute = true
  · rw [if_pos hAbsolute] at hRest
    rcases exists_of_bind_eq_ok hRest with
      ⟨es, hFragment, hDone⟩
    cases hDone
    unfold Options.expression at hExpression
    cases hRead : Expression.read o.path with
    | error fault =>
        rw [hRead] at hExpression
        cases hExpression
    | ok e' =>
        rw [hRead] at hExpression
        cases hExpression
        exact ⟨Expression.rooted_of_read hRead hAbsolute,
          uniqueKeys_of_fragment hFragment⟩
  · rw [if_neg hAbsolute] at hRest
    cases hRest

section Visit

variable {r : AddedConfiguration} {t : Tree}

theorem lookup?_of_mem_targets
    (hForm : r.WellFormed)
    (hKeys : t.UniqueKeys) :
    ∀ p ∈ r.targets t, (t.lookup? p).isSome := by
  intro p hMember
  exact ((Expression.mem_select_path_iff hForm.rooted hKeys).mp
    hMember).1

/- The stamped mappings are those at marked paths. -/
theorem stamped_iff_marks
    (hForm : r.WellFormed)
    (hKeys : t.UniqueKeys)
    {p : Path} :
    Merge.Stamped t (r.targets t) p ↔
      (∃ es, t.lookup? p = some (.mapping es)) ∧ r.Marks p := by
  have hTarget : ∀ q, q ∈ r.targets t ↔
      (t.lookup? q).isSome ∧
        Expression.Spells r.expression.segments q :=
    fun q => Expression.mem_select_path_iff hForm.rooted hKeys
  constructor
  · rintro ⟨hMapping, hMember | ⟨q, hMember, _, i, _, hPath⟩⟩
    · exact ⟨hMapping, Or.inl ((hTarget p).mp hMember).2⟩
    · exact ⟨hMapping,
        Or.inr ⟨q, i, ((hTarget q).mp hMember).2, hPath⟩⟩
  · rintro ⟨⟨es, hNode⟩, hSpells | ⟨q, i, hSpells, rfl⟩⟩
    · exact ⟨⟨es, hNode⟩, Or.inl ((hTarget p).mpr
        ⟨hNode ▸ rfl, hSpells⟩)⟩
    · rcases Merge.lookup?_index hNode with ⟨xs, hSequence, _⟩
      exact ⟨⟨es, hNode⟩, Or.inr ⟨q, (hTarget q).mpr
        ⟨hSequence ▸ rfl, hSpells⟩, xs, i, hSequence, rfl⟩⟩

/- Merging adds something when a selected mapping lacks entries. -/
theorem changed_iff_lacks
    (hForm : r.WellFormed)
    (hKeys : t.UniqueKeys) :
    (Merge.intoCursors r.fragment t
      (r.expression.select t)).changed = true ↔ r.Lacks t := by
  have hFragment := hForm.nodup_keys
  have hTargets := lookup?_of_mem_targets hForm hKeys
  have hMember : ∀ a : Addition,
      a ∈ (Merge.into r.fragment t (r.targets t)).additions ↔ _ :=
    fun a => Merge.mem_into_additions hFragment hTargets
  rw [Merge.changed, Merge.intoCursors, Bool.not_eq_true',
    List.isEmpty_eq_false_iff_exists_mem]
  constructor
  · rintro ⟨a, hAdded⟩
    rcases (hMember a).mp hAdded with
      ⟨hStamped, es, hNode, hKey⟩
    refine ⟨a.path, es, hNode,
      ((stamped_iff_marks hForm hKeys).mp hStamped).2, ?_⟩
    intro hNone
    simp [hNone] at hKey
  · rintro ⟨p, es, hNode, hMarks, hLacking⟩
    rcases List.exists_mem_of_ne_nil _ hLacking with
      ⟨⟨k, v⟩, hEntry⟩
    exact ⟨⟨p, k⟩, (hMember ⟨p, k⟩).mpr
      ⟨(stamped_iff_marks hForm hKeys).mpr ⟨⟨es, hNode⟩, hMarks⟩,
        es, hNode, Mapping.mem_keys_iff.mpr ⟨v, hEntry⟩⟩⟩

/-
  A visit changes a resource to which the recipe applies and in
  which a selected mapping lacks entries, and nothing else.
-/
theorem visit_eq_unchanged_iff
    (hForm : r.WellFormed)
    (hKeys : t.UniqueKeys) :
    r.visit t = Visit.unchanged ↔
      ¬ (r.applies t = true ∧ r.Lacks t) := by
  rw [← changed_iff_lacks hForm hKeys, visit]
  by_cases hApplies : r.applies t = true
  · by_cases hChanged :
        (Merge.intoCursors r.fragment t
          (r.expression.select t)).changed = true
    · simp [hApplies, hChanged, Visit.rewritten, Visit.unchanged]
    · simp [hApplies, hChanged]
  · simp [hApplies]

/- Such a resource is stamped at the selected mappings. -/
theorem result_visit
    (hForm : r.WellFormed)
    (hKeys : t.UniqueKeys)
    (hApplies : r.applies t = true)
    (hLacks : r.Lacks t) :
    (r.visit t).result t =
      t.patched (Merge.stamping r.fragment
        (Merge.marked (r.targets t))) := by
  have hChanged := (changed_iff_lacks hForm hKeys).mpr hLacks
  have hFragment := hForm.nodup_keys
  rw [← Merge.into_tree hFragment
    (lookup?_of_mem_targets hForm hKeys)]
  rw [visit, if_pos hApplies]
  simp only [hChanged, if_true]
  rfl

theorem result_visit_of_unchanged
    (hUnchanged : r.visit t = Visit.unchanged) :
    (r.visit t).result t = t := by
  rw [hUnchanged]
  rfl

------------------------------------------------------------
-- The Grown Tree
------------------------------------------------------------

/- Stamping keeps keys apart. -/
theorem uniqueKeys_grown
    (hForm : r.WellFormed)
    (hKeys : t.UniqueKeys)
    (paths : Path → Bool) :
    (t.patched (Merge.stamping r.fragment paths)).UniqueKeys := by
  have hFragment := Tree.uniqueKeys_mapping_iff.mp hForm.fragment
  apply Tree.uniqueKeys_patched hKeys
  intro p es hNode
  have hOwn := Tree.uniqueKeys_mapping_iff.mp (hKeys.lookup hNode)
  cases hStamped : paths p with
  | false => simpa [Merge.stamping, hStamped] using hKeys.lookup hNode
  | true =>
      simp only [Merge.stamping, hStamped, if_true]
      rw [Tree.uniqueKeys_mapping_iff, Mapping.keys_append]
      constructor
      · refine List.nodup_append.mpr ⟨hOwn.1,
          Merge.nodup_keys_lacking es hFragment.1, ?_⟩
        rintro k hOld l hNew rfl
        rcases Mapping.mem_keys_iff.mp hNew with ⟨v, hEntry⟩
        exact (Merge.mem_lacking_iff.mp hEntry).2 hOld
      · intro k v hMember
        rcases List.mem_append.mp hMember with hOld | hNew
        · exact hOwn.2 k v hOld
        · exact hFragment.2 k v (Merge.mem_lacking_iff.mp hNew).1

/-
  Selected mappings of the grown tree lack entries within the
  entries that were added, and only there.
-/
theorem lacks_grown_iff
    (hForm : r.WellFormed)
    (hKeys : t.UniqueKeys) :
    r.Lacks (t.patched (Merge.stamping r.fragment
      (Merge.marked (r.targets t)))) ↔ r.Regrows t := by
  have hFragment := hForm.nodup_keys
  have hMarked : ∀ p es, t.lookup? p = some (.mapping es) →
      (Merge.marked (r.targets t) p = true ↔ r.Marks p) := by
    intro p es hNode
    have hStamped := stamped_iff_marks hForm hKeys (p := p)
    rw [Merge.stamped_iff_marked] at hStamped
    exact (and_congr_right_iff.mp hStamped) ⟨es, hNode⟩
  constructor
  · rintro ⟨p, fs, hNode, hMarks, hLacking⟩
    rcases Tree.lookup?_patched_eq_some hNode with
      ⟨n, hOld, hSame⟩ |
        ⟨q, es, k, v, rest, rfl, hOld, _, hNew, hRest⟩
    · -- A mapping that was there before has been stamped.
      cases n with
      | scalar s => simp [Tree.patched] at hSame
      | sequence xs => simp [Tree.patched] at hSame
      | mapping es =>
          have hStamped := (hMarked p es hOld).mpr hMarks
          rw [Merge.stamping_under, Tree.patched,
            Tree.mapping.injEq] at hSame
          have hNothing :
              Merge.lacking r.fragment fs =
                if Merge.marked (r.targets t) (p ++ []) then []
                else Merge.lacking r.fragment es := by
            rw [hSame]
            exact Merge.lacking_stamped _ (by simp)
          rw [List.append_nil, if_pos hStamped] at hNothing
          exact absurd hNothing hLacking
    · -- The value of an added entry is as it is in the fragment.
      have hStamped : Merge.marked (r.targets t) q = true := by
        by_contra hUnmarked
        simp [Merge.stamping, hUnmarked, Mapping.get?] at hNew
      simp only [Merge.stamping, hStamped, if_true] at hNew
      exact ⟨q, es, k, v, rest, fs, hOld,
        (hMarked q es hOld).mp hStamped,
        Mapping.mem_of_get?_eq_some hNew, hRest, hMarks, hLacking⟩
  · rintro ⟨p, es, k, v, q, inner, hOld, hMarks, hEntry, hInner,
      hAgain, hLacking⟩
    refine ⟨p ++ .field k :: q, inner, ?_, hAgain, hLacking⟩
    have hStamped := (hMarked p es hOld).mpr hMarks
    have hAbsent := (Merge.mem_lacking_iff.mp hEntry).2
    have hNew : Mapping.get? k (Merge.lacking r.fragment es) =
        some v :=
      (Mapping.get?_eq_some_iff
        (Merge.nodup_keys_lacking es hFragment)).mpr hEntry
    rw [Tree.lookup?_append, Tree.lookup?_patched _ hOld]
    simp [Tree.patched, Merge.stamping, hStamped,
      Tree.lookup?_cons, Tree.child?, Mapping.get?_append, hNew,
      hInner, Mapping.get?_eq_none_iff.mpr, hAbsent]

theorem lacks_of_regrows (hRegrows : r.Regrows t) :
    r.Lacks t := by
  rcases hRegrows with
    ⟨p, es, k, v, _, _, hNode, hMarks, hEntry, _⟩
  exact ⟨p, es, hNode, hMarks, List.ne_nil_of_mem hEntry⟩

/-
  Without a descent the selected nodes are all at one depth,
  and nothing is selected within what is added.
-/
theorem not_regrows_of_level
    (hLevel : Segment.descent ∉ r.expression.segments) :
    ¬ r.Regrows t := by
  have hLength : ∀ p q,
      Expression.Spells r.expression.segments p →
        Expression.Spells r.expression.segments q →
          p.length = q.length :=
    fun p q hLeft hRight =>
      (hLeft.length_eq hLevel).trans (hRight.length_eq hLevel).symm
  rintro ⟨p, _, k, _, q, _, _, hMarks, _, _, hAgain, _⟩
  rcases hMarks with hOuter | ⟨outer, i, hOuter, rfl⟩
  · rcases hAgain with hInner | ⟨inner, j, hInner, hPath⟩
    · have hSame := hLength _ _ hOuter hInner
      simp at hSame
    · have hSame := hLength _ _ hOuter hInner
      have hSteps : (Path.Element.field k :: q) = [.index j] :=
        (List.append_inj hPath hSame).2
      cases hSteps
  · have hLonger : ∀ inner : Path,
        Expression.Spells r.expression.segments inner →
          inner.length = outer.length :=
      fun inner hInner => hLength _ _ hInner hOuter
    rcases hAgain with hInner | ⟨inner, j, hInner, hPath⟩
    · have hSame := hLonger _ hInner
      simp only [List.length_append, List.length_cons,
        List.length_nil] at hSame
      omega
    · have hSame := hLonger _ hInner
      have hTotal := congrArg List.length hPath
      simp only [List.length_append, List.length_cons,
        List.length_nil] at hTotal
      omega

end Visit

------------------------------------------------------------
-- Visiting Twice
------------------------------------------------------------

/-
  A second visit changes the result of the first exactly when
  the recipe still applies to it and an entry that was added
  holds a selected mapping that lacks entries.  This takes an
  expression with a descent.
-/
theorem unchanged_again_iff_not_regrows
    (o : ConfigurationOptions)
    (r : AddedConfiguration)
    (t : Tree)
    (hBuild : Options.addedConfiguration o = .ok r)
    (hKeys : t.UniqueKeys) :
    (r.visit ((r.visit t).result t) = Visit.unchanged ↔
      ¬ (r.applies ((r.visit t).result t) = true ∧
        r.Regrows t)) ∧
    (Segment.descent ∉ r.expression.segments →
      r.visit ((r.visit t).result t) = Visit.unchanged) := by
  have hForm := wellFormed_of_build hBuild
  have hExact :
      r.visit ((r.visit t).result t) = Visit.unchanged ↔
        ¬ (r.applies ((r.visit t).result t) = true ∧
          r.Regrows t) := by
    by_cases hUnchanged : r.visit t = Visit.unchanged
    · rw [result_visit_of_unchanged hUnchanged]
      have hFirst :=
        (visit_eq_unchanged_iff hForm hKeys).mp hUnchanged
      constructor
      · rintro _ ⟨hApplies, hRegrows⟩
        exact hFirst ⟨hApplies, lacks_of_regrows hRegrows⟩
      · exact fun _ => hUnchanged
    · have hFirst : r.applies t = true ∧ r.Lacks t := by
        by_contra hIdle
        exact hUnchanged
          ((visit_eq_unchanged_iff hForm hKeys).mpr hIdle)
      rw [result_visit hForm hKeys hFirst.1 hFirst.2,
        visit_eq_unchanged_iff hForm
          (uniqueKeys_grown hForm hKeys _),
        lacks_grown_iff hForm hKeys]
  refine ⟨hExact, fun hLevel => hExact.mpr ?_⟩
  exact fun hAgain => not_regrows_of_level hLevel hAgain.2

/- Two visits to a resource whose new part is selected by a descent. -/
theorem unchanged_again_iff_not_regrows_descent :
    let o : ConfigurationOptions :=
      ⟨none, "Deployment", "$..spec", "spec: {}"⟩
    let r : AddedConfiguration :=
      ⟨none, "Deployment",
        ⟨"$..spec", [.root, .descent, .field "spec"]⟩,
        [("spec", .mapping [])]⟩
    let t : Tree :=
      .mapping [("kind", .string "Deployment"),
        ("spec", .mapping [])]
    Options.addedConfiguration o = .ok r ∧ t.UniqueKeys ∧
    (r.visit ((r.visit t).result t) = Visit.unchanged ↔
      ¬ (r.applies ((r.visit t).result t) = true ∧
        r.Regrows t)) ∧
    (Segment.descent ∉ r.expression.segments →
      r.visit ((r.visit t).result t) = Visit.unchanged) := by
  intro o r t
  have hBuild : Options.addedConfiguration o = .ok r :=
    eq_ok_of_toOption (by decide +kernel)
  have hKeys : t.UniqueKeys := by decide
  exact ⟨hBuild, hKeys,
    unchanged_again_iff_not_regrows o r t hBuild hKeys⟩

/- The second of these visits adds the part once more. -/
theorem regrowing_visit :
    let o : ConfigurationOptions :=
      ⟨none, "Deployment", "$..spec", "spec: {}"⟩
    let r : AddedConfiguration :=
      ⟨none, "Deployment",
        ⟨"$..spec", [.root, .descent, .field "spec"]⟩,
        [("spec", .mapping [])]⟩
    let t : Tree :=
      .mapping [("kind", .string "Deployment"),
        ("spec", .mapping [])]
    Options.addedConfiguration o = .ok r ∧ t.UniqueKeys ∧
      r.visit ((r.visit t).result t) ≠ Visit.unchanged := by
  intro o r t
  have hBuild : Options.addedConfiguration o = .ok r :=
    eq_ok_of_toOption (by decide +kernel)
  exact ⟨hBuild, by decide, by decide +kernel⟩

end AddedConfiguration

end ManifestRecipes
