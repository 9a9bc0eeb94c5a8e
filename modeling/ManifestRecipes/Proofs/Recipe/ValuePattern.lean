import ManifestRecipes.Proofs.Pattern.Shorter.Reading
import ManifestRecipes.Proofs.Recipe.MetadataEntry

/-
  Patterns for the values of entries.

  Three recipes match the values of annotations or labels.  A
  pattern that leaves the group of the anchors open is well
  formed by itself, and matches a value from its first to its
  last character.  But a pattern may also close this group and
  begin another one; then it is well formed between the anchors
  only.

  Key definitions include:
    * `Options.Matches`
    * `Recipe.TakesWholeValues`

  Main declarations:
    * `Options.Matches.exists_accepts`
    * `Recipe.takesWholeValues_of_readable`
    * `Recipe.matches_in_group`
-/

namespace ManifestRecipes

open Labelling (MetadataPath Section entryUnder)

variable {o : Options} {part : Section} {name source : String}
variable {told : Bool → List String} {r : Recipe}

/-
  Options ask for the values of an entry to match a pattern;
  they say something of the values that do, or of the others.
-/
inductive Options.Matches :
    Options → Section → String → String → (Bool → List String) → Prop where
  /- A search tells of the values that match. -/
  | search (name source : String) :
      Matches (.searchAnnotations name (some source)) .annotations name
        source fun fits => if fits then ["found:" ++ source] else []
  /- A check tells of those that do not. -/
  | check (part : Section) (name source : String) :
      Matches (.checkEntry part name (some source)) part name
        source fun fits => if fits then [] else ["invalid:" ++ source]

/-
  What is said of an entry tells whether the pattern fits its
  whole value.
-/
def Recipe.TakesWholeValues
    (r : Recipe)
    (part : Section)
    (name source : String)
    (told : Bool → List String) : Prop :=
  ∀ t p n, t.UniqueKeys → MetadataPath t p →
    t.lookup? (entryUnder part name p) = some n →
      ∃ v fits, r.visit t = .ok v ∧
        v.findings.messagesAt (entryUnder part name p) = told fits ∧
        (fits = true ↔ ValuePattern.FitsWholly source n)

/- What is said of an entry tells whether its value is accepted. -/
theorem Options.Matches.exists_accepts
    (hMatches : o.Matches part name source told)
    (hBuild : o.build = .ok r) :
    ∃ q, ValuePattern.read? source = some q ∧
      ∀ t p n, t.UniqueKeys → MetadataPath t p →
        t.lookup? (entryUnder part name p) = some n →
          ∃ v, r.visit t = .ok v ∧
            v.findings.messagesAt (entryUnder part name p) =
              told (q.acceptsNode n) := by
  cases hMatches with
  | search name source =>
      rcases exists_of_bind_eq_ok hBuild with ⟨pattern?, hRead, hDone⟩
      cases hDone
      rcases valuePattern?_eq_ok_iff.mp hRead with
        ⟨hNone, _⟩ | ⟨_, q, hSource, rfl, hPattern⟩
      · cases hNone
      · cases hSource
        refine ⟨q, hPattern, fun t p n hKeys hMetadata hEntry => ?_⟩
        have hSource := (ValuePattern.read?_eq_some_iff.mp hPattern).1
        refine ⟨_, rfl, ?_⟩
        rw [AnnotationSearch.messagesAt_visit hKeys hMetadata, hEntry,
          Option.bind_some, AnnotationSearch.message?, ← hSource]
        cases hAccepts : q.acceptsNode n <;> simp [hAccepts]
  | check part name source =>
      rcases exists_of_bind_eq_ok hBuild with ⟨pattern?, hRead, hDone⟩
      cases hDone
      rcases valuePattern?_eq_ok_iff.mp hRead with
        ⟨hNone, _⟩ | ⟨_, q, hSource, rfl, hPattern⟩
      · cases hNone
      · cases hSource
        refine ⟨q, hPattern, fun t p n hKeys hMetadata hEntry => ?_⟩
        refine ⟨_, rfl, ?_⟩
        rw [EntryCheck.messagesAt_visit_pattern part name q hKeys
            hMetadata hEntry,
          (ValuePattern.read?_eq_some_iff.mp hPattern).1]

/-
  What is told of the values of an entry is about whole values,
  provided that the pattern is well formed by itself.
-/
theorem Recipe.takesWholeValues_of_readable
    (hMatches : o.Matches part name source told)
    (hBuild : o.build = .ok r)
    (hAlone : (Pattern.read? source).isSome = true) :
    r.TakesWholeValues part name source told := by
  rcases hMatches.exists_accepts hBuild with ⟨q, hRead, hTold⟩
  intro t p n hKeys hMetadata hEntry
  rcases hTold t p n hKeys hMetadata hEntry with
    ⟨v, hVisit, hMessages⟩
  exact ⟨v, _, hVisit, hMessages,
    ValuePattern.acceptsNode_iff hRead hAlone⟩

/-
  A pattern that a recipe accepts is one by itself exactly when
  it leaves the group of the anchors open, and then what is told
  of the values of an entry is about whole values.
-/
theorem Recipe.matches_in_group
    (hMatches : o.Matches part name source told)
    (hBuild : o.build = .ok r) :
    (Pattern.StaysInGroup source.toList ↔
      (Pattern.read? source).isSome = true) ∧
    (Pattern.StaysInGroup source.toList →
      r.TakesWholeValues part name source told) := by
  rcases hMatches.exists_accepts hBuild with ⟨q, hRead, _⟩
  have hReadable : Pattern.StaysInGroup source.toList ↔
      (Pattern.read? source).isSome = true :=
    Pattern.staysInGroup_iff (ValuePattern.read?_eq_some_iff.mp hRead).2
  exact ⟨hReadable, fun hStays =>
    takesWholeValues_of_readable hMatches hBuild (hReadable.mp hStays)⟩

/- A pattern keeps its flags and groups between the anchors. -/
theorem Recipe.matches_in_group_team :
    let source := "(?i)(a|b)+"
    let o := Options.checkEntry .labels "team" (some source)
    let told := fun fits => if fits then [] else ["invalid:" ++ source]
    o.Matches .labels "team" source told ∧
    ∃ r, o.build = .ok r ∧ Pattern.StaysInGroup source.toList ∧
      r.TakesWholeValues .labels "team" source told := by
  intro source o told
  have hMatches : o.Matches .labels "team" source told :=
    .check .labels "team" source
  have hAlone : (Pattern.read? source).isSome = true := by
    decide +kernel
  have hAnchored : (Pattern.readAnchored? source).isSome = true := by
    decide +kernel
  rcases Options.exists_valuePattern? hAnchored with ⟨q, hValue⟩
  have hBuild : o.build = .ok (.checkEntry ⟨.labels, "team", some q⟩) :=
    Options.build_checkEntry_eq_ok hValue
  rcases matches_in_group hMatches hBuild with ⟨hReadable, hWhole⟩
  have hStays := hReadable.mpr hAlone
  exact ⟨hMatches, _, hBuild, hStays, hWhole hStays⟩

/-
  A pattern that closes the group of the anchors is accepted,
  though it is no pattern by itself, and a value that only
  begins with what it stands for passes the check.
-/
theorem Recipe.accepts_pattern_out_of_group :
    let source := "a)|(?:b"
    let t : Tree :=
      .mapping [("metadata", .mapping [
        ("labels", .mapping [("tier", .string "abc")])])]
    let p : Path := [.field "metadata"]
    Pattern.read? source = none ∧
    t.lookup? (entryUnder .labels "tier" p) = some (.string "abc") ∧
    ∃ r v,
      Options.build (.checkEntry .labels "tier" (some source)) = .ok r ∧
      r.visit t = .ok v ∧
      v.findings.messagesAt (entryUnder .labels "tier" p) = [] := by
  intro source t p
  have hRead : (Pattern.readAnchored? source).isSome = true := by
    decide +kernel
  have hAccepts : ∀ q, ValuePattern.read? source = some q →
      q.acceptsNode (.string "abc") = true := by
    have hAny : (ValuePattern.read? source).all
        (·.acceptsNode (.string "abc")) = true := by
      decide +kernel
    intro q hValue
    rwa [hValue] at hAny
  have hMetadata : MetadataPath t p :=
    ⟨⟨_, rfl, rfl⟩, [], Or.inl rfl, rfl⟩
  rcases Options.exists_valuePattern? hRead with ⟨q, hValue⟩
  have hBuild :
      Options.build (.checkEntry .labels "tier" (some source)) =
        .ok (.checkEntry ⟨.labels, "tier", some q⟩) :=
    Options.build_checkEntry_eq_ok hValue
  rcases (Options.Matches.check .labels "tier" source).exists_accepts
    hBuild with ⟨q, hPattern, hTold⟩
  rcases hTold t p (.string "abc") (by decide) hMetadata rfl with
    ⟨v, hVisit, hMessages⟩
  rw [hAccepts q hPattern] at hMessages
  exact ⟨by decide +kernel, rfl, _, v, hBuild, hVisit, hMessages⟩

end ManifestRecipes
