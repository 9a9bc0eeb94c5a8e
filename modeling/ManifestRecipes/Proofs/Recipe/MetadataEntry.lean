import ManifestRecipes.Proofs.Failure
import ManifestRecipes.Proofs.Findings
import ManifestRecipes.Proofs.Labelling
import ManifestRecipes.Proofs.Pattern.Reading
import ManifestRecipes.Recipe.Options

/-
  What is found about the entries of metadata.

  A check is made of each metadata block in turn.  With a
  pattern it judges the entries that are there and passes over
  those that are missing.  The search for annotations and the
  check of annotations divide the entries between them.

  Key definitions include:
    * `ValuePattern.FitsWholly`
    * `EntryCheck.Demands`
    * `EntryCheck.Lists`
    * `EntryCheck.Reports`
    * `AnnotationSearch.Divides`

  Main declarations:
    * `ValuePattern.acceptsNode_iff`
    * `EntryCheck.finding?_eq_some_iff`
    * `EntryCheck.visit_lists_demands`
    * `AnnotationSearch.messagesAt_visit`
    * `AnnotationSearch.search_complements_check`
-/

namespace ManifestRecipes

open Labelling (MetadataPath Section entryUnder)

------------------------------------------------------------
-- Values
------------------------------------------------------------

namespace ValuePattern

/- A text for which a pattern stands from its first to its last character. -/
def FitsWholly (source : String) (n : Tree) : Prop :=
  ∃ text q, n.text? = some text ∧ Pattern.read? source = some q ∧
    q.FitsAll text.toList

/- A pattern for values keeps the text that it is read from. -/
theorem read?_eq_some_iff
    {source : String}
    {p : ValuePattern} :
    read? source = some p ↔
      p.source = source ∧
        Pattern.readAnchored? source = some p.pattern := by
  rcases p with ⟨source', pattern⟩
  rw [read?, Option.map_eq_some_iff]
  constructor
  · intro hRead
    rcases hRead with ⟨q, hAnchored, hSame⟩
    cases hSame
    exact ⟨rfl, hAnchored⟩
  · intro hRead
    rcases hRead with ⟨rfl, hAnchored⟩
    exact ⟨pattern, hAnchored, rfl⟩

/- Values are accepted when the pattern fits them as a whole. -/
theorem acceptsNode_iff
    {source : String}
    {p : ValuePattern}
    {n : Tree}
    (hRead : read? source = some p)
    (hAlone : (Pattern.read? source).isSome = true) :
    p.acceptsNode n = true ↔ FitsWholly source n := by
  rcases Option.isSome_iff_exists.mp hAlone with ⟨q, hPattern⟩
  have hAnchored := (read?_eq_some_iff.mp hRead).2
  simp only [acceptsNode, Option.any_eq_true, accepts, FitsWholly,
    Pattern.occursIn_anchored_iff hPattern hAnchored, hPattern,
    Option.some.injEq, exists_and_left, exists_eq_left']

end ValuePattern

theorem Options.valuePattern?_eq_ok_iff
    {value? : Option String}
    {pattern? : Option ValuePattern} :
    valuePattern? value? = .ok pattern? ↔
      (value? = none ∧ pattern? = none) ∨
        ∃ source p, value? = some source ∧ pattern? = some p ∧
          ValuePattern.read? source = some p := by
  cases value? with
  | none => simp [valuePattern?, eq_comm]
  | some source =>
      cases hRead : ValuePattern.read? source with
      | none => simp [valuePattern?, hRead]
      | some p => simp [valuePattern?, hRead, eq_comm]

theorem Options.exists_valuePattern?
    {source : String}
    (hRead : (Pattern.readAnchored? source).isSome = true) :
    ∃ p, valuePattern? (some source) = .ok (some p) := by
  rcases Option.isSome_iff_exists.mp hRead with ⟨q, hPattern⟩
  have hValue := ValuePattern.read?_eq_some_iff
    (p := ⟨source, q⟩).mpr ⟨rfl, hPattern⟩
  exact ⟨_, valuePattern?_eq_ok_iff.mpr
    (Or.inr ⟨source, _, rfl, rfl, hValue⟩)⟩

theorem Options.build_checkEntry_eq_ok
    {part : Section}
    {name : String}
    {value? : Option String}
    {pattern? : Option ValuePattern}
    (hRead : valuePattern? value? = .ok pattern?) :
    build (.checkEntry part name value?) =
      .ok (.checkEntry ⟨part, name, pattern?⟩) := by
  rw [build, hRead]
  rfl

------------------------------------------------------------
-- Checked Entries
------------------------------------------------------------

namespace EntryCheck

variable {r : EntryCheck} {t : Tree} {c d : Cursor} {f : Finding}

/- An entry is reached by two steps down from its metadata block. -/
theorem entry?_eq_some_iff
    (hOf : c.IsOf t)
    (hKeys : t.UniqueKeys) :
    r.entry? c = some d ↔
      d.IsOf t ∧ d.path = entryUnder r.part r.name c.path := by
  unfold entry?
  rw [Option.bind_eq_some_iff]
  constructor
  · intro hSteps
    rcases hSteps with ⟨b, hFirst, hSecond⟩
    rcases (hOf.child?_eq_some_iff hKeys).mp hFirst with
      ⟨hOf', hPath⟩
    rcases (hOf'.child?_eq_some_iff hKeys).mp hSecond with
      ⟨hEntry, hPath'⟩
    rw [hPath] at hPath'
    exact ⟨hEntry, hPath'⟩
  · intro hPlaced
    rcases hPlaced with ⟨hEntry, hPath⟩
    rcases hEntry.exists_parent hPath with ⟨b, hOf', _, hPath'⟩
    refine ⟨b, (hOf.child?_eq_some_iff hKeys).mpr ⟨hOf', hPath'⟩,
      (hOf'.child?_eq_some_iff hKeys).mpr ⟨hEntry, ?_⟩⟩
    rw [hPath, hPath', entryUnder]

/- It is the node that the tree has there. -/
theorem lookup?_entryUnder
    (hOf : c.IsOf t)
    (hKeys : t.UniqueKeys) :
    t.lookup? (entryUnder r.part r.name c.path) =
      (Option.map Cursor.node <| r.entry? c) := by
  cases hEntry : r.entry? c with
  | none =>
      rw [Option.map_none, Option.eq_none_iff_forall_ne_some]
      intro n hNode
      rcases Cursor.exists_isOf_of_lookup? hNode with
        ⟨d, hOf', hPath, _⟩
      rw [(entry?_eq_some_iff hOf hKeys).mpr ⟨hOf', hPath⟩] at hEntry
      cases hEntry
  | some d =>
      rcases (entry?_eq_some_iff hOf hKeys).mp hEntry with
        ⟨hOf', hPath⟩
      rw [← hPath, hOf'.lookup?_path hKeys]
      rfl

/- All that can be said about a metadata block. -/
theorem finding?_eq_some_iff
    (hOf : c.IsOf t)
    (hKeys : t.UniqueKeys) :
    r.finding? c = some f ↔
      (r.value? = none ∧
        t.lookup? (entryUnder r.part r.name c.path) = none ∧
        f = ⟨c.path, "missing:" ++ r.name⟩) ∨
      ∃ p n, r.value? = some p ∧
        t.lookup? (entryUnder r.part r.name c.path) = some n ∧
        p.acceptsNode n = false ∧
        f = ⟨entryUnder r.part r.name c.path,
          "invalid:" ++ p.source⟩ := by
  rw [lookup?_entryUnder hOf hKeys, finding?]
  cases hEntry : r.entry? c with
  | none => cases r.value? <;> simp [@eq_comm _ f]
  | some d =>
      have hPath := ((entry?_eq_some_iff hOf hKeys).mp hEntry).2
      cases r.value? with
      | none => simp
      | some p =>
          cases hAccepts : p.acceptsNode d.node <;>
            simp [hAccepts, hPath, @eq_comm _ f]

/- The metadata blocks of a document, in order. -/
def blocks (t : Tree) : List Cursor :=
  t.nodesWhere Labelling.isMetadata

theorem mem_blocks_iff (hKeys : t.UniqueKeys) :
    c ∈ blocks t ↔ c.IsOf t ∧ MetadataPath t c.path := by
  rw [blocks, Tree.nodesWhere, List.mem_filter,
    Cursor.mem_descendants_iff]
  exact and_congr_right fun hOf => Labelling.isMetadata_iff hOf hKeys

theorem nodup_paths_blocks (hKeys : t.UniqueKeys) :
    ((blocks t).map Cursor.path).Nodup := by
  exact (Cursor.nodup_paths_descendants hKeys).sublist
    (List.filter_sublist.map Cursor.path)

/- The place of what is said about the metadata at a path. -/
def place (r : EntryCheck) (p : Path) : Path :=
  match r.value? with
  | none => p
  | some _ => entryUnder r.part r.name p

theorem place_injective (r : EntryCheck) :
    Function.Injective r.place := by
  unfold place
  cases r.value? with
  | none => exact Function.injective_id
  | some p => exact Labelling.entryUnder_injective r.part r.name

/- What is said about a metadata block is said there. -/
theorem path_of_finding?
    (hKeys : t.UniqueKeys)
    (hMember : c ∈ blocks t)
    (hFound : r.finding? c = some f) :
    f.path = r.place c.path := by
  have hOf := ((mem_blocks_iff hKeys).mp hMember).1
  rcases (finding?_eq_some_iff hOf hKeys).mp hFound with
    ⟨hNone, _, rfl⟩ | ⟨p, _, hSome, _, _, rfl⟩
  · rw [place, hNone]
  · rw [place, hSome]

theorem entries_visit (hKeys : t.UniqueKeys) :
    (r.visit t).findings.entries = (blocks t).filterMap r.finding? := by
  exact Findings.entries_ofList_filterMap r.place
    (fun _ hMember _ => path_of_finding? hKeys hMember)
    r.place_injective (nodup_paths_blocks hKeys)

/- What is asked of an entry of the metadata at a path. -/
inductive Demands
    (t : Tree)
    (part : Section)
    (name : String)
    (value? : Option String)
    (p : Path) : Finding → Prop where
  /- The entry must be there. -/
  | missing
      (hMissing : t.lookup? (entryUnder part name p) = none) :
      Demands t part name value? p ⟨p, "missing:" ++ name⟩
  /- Its value must fit the pattern, if there is one. -/
  | invalid {source : String} {n : Tree}
      (hValue : value? = some source)
      (hEntry : t.lookup? (entryUnder part name p) = some n)
      (hUnfit : ¬ ValuePattern.FitsWholly source n) :
      Demands t part name value? p
        ⟨entryUnder part name p, "invalid:" ++ source⟩

/- What is said about each metadata block, block by block. -/
def Lists
    (t : Tree)
    (Says : Path → Finding → Prop)
    (fs : List Finding) : Prop :=
  ∃ (cs : List Cursor) (said? : Cursor → Option Finding),
    (∀ c, c ∈ cs ↔ c.IsOf t ∧ MetadataPath t c.path) ∧
    (cs.Pairwise fun c d => c.orderKey < d.orderKey) ∧
    (∀ c ∈ cs, ∀ f, said? c = some f ↔ Says c.path f) ∧
    fs = cs.filterMap said?

/- The findings are those that are said about a metadata block. -/
theorem Lists.mem_iff
    {Says : Path → Finding → Prop}
    {fs : List Finding}
    (hLists : Lists t Says fs) :
    f ∈ fs ↔ ∃ p, MetadataPath t p ∧ Says p f := by
  rcases hLists with ⟨cs, said?, hBlocks, _, hSays, rfl⟩
  rw [List.mem_filterMap]
  constructor
  · intro hFound
    rcases hFound with ⟨c, hMember, hSaid⟩
    exact ⟨c.path, ((hBlocks c).mp hMember).2,
      (hSays c hMember f).mp hSaid⟩
  · intro hSaid
    rcases hSaid with ⟨p, hMetadata, hSaid⟩
    rcases hMetadata.exists_isOf with ⟨c, hOf, rfl⟩
    have hMember := (hBlocks c).mpr ⟨hOf, hMetadata⟩
    exact ⟨c, hMember, (hSays c hMember f).mpr hSaid⟩

/- The places of entries that a check passes judgement on. -/
def Judges
    (t : Tree)
    (part : Section)
    (name : String)
    (value? : Option String)
    (p : Path) : Prop :=
  value? = none ∨ (t.lookup? (entryUnder part name p)).isSome = true

section Configured

variable {part : Section} {name : String} {value? : Option String}
variable {pattern? : Option ValuePattern}

/- What is said about a block is what is demanded, where it is judged. -/
theorem finding?_iff_demands
    (hOf : c.IsOf t)
    (hKeys : t.UniqueKeys)
    (hRead : Options.valuePattern? value? = .ok pattern?)
    (hAlone : ∀ source, value? = some source →
      (Pattern.read? source).isSome = true) :
    (EntryCheck.mk part name pattern?).finding? c = some f ↔
      Judges t part name value? c.path ∧
        Demands t part name value? c.path f := by
  rw [finding?_eq_some_iff hOf hKeys]
  rcases Options.valuePattern?_eq_ok_iff.mp hRead with
    ⟨rfl, rfl⟩ | ⟨source, q, rfl, rfl, hPattern⟩
  · constructor
    · intro hSaid
      rcases hSaid with ⟨_, hMissing, rfl⟩ | ⟨_, _, hNone, _⟩
      · exact ⟨Or.inl rfl, .missing hMissing⟩
      · cases hNone
    · intro hSaid
      rcases hSaid with ⟨_, hDemanded⟩
      cases hDemanded with
      | missing hMissing => exact Or.inl ⟨rfl, hMissing, rfl⟩
      | invalid hValue _ _ => cases hValue
  · have hFits : ∀ n, q.acceptsNode n = false ↔
        ¬ ValuePattern.FitsWholly source n := by
      intro n
      rw [← ValuePattern.acceptsNode_iff hPattern (hAlone source rfl),
        Bool.not_eq_true]
    have hSource := (ValuePattern.read?_eq_some_iff.mp hPattern).1
    constructor
    · intro hSaid
      rcases hSaid with ⟨hNone, _⟩ | ⟨_, n, hSame, hEntry, hRejects, rfl⟩
      · cases hNone
      · cases hSame
        dsimp only
        rw [hSource]
        exact ⟨Or.inr (by rw [hEntry]; rfl),
          .invalid rfl hEntry ((hFits n).mp hRejects)⟩
    · intro hSaid
      rcases hSaid with ⟨hJudged | hJudged, hDemanded⟩
      · cases hJudged
      · cases hDemanded with
        | missing hMissing =>
            rw [hMissing] at hJudged
            cases hJudged
        | invalid hValue hEntry hUnfit =>
            cases hValue
            exact Or.inr ⟨q, _, rfl, hEntry, (hFits _).mpr hUnfit,
              by rw [hSource]⟩

/- The findings are what is demanded of the blocks that are judged. -/
theorem lists_visit
    (part : Section)
    (name : String)
    (hKeys : t.UniqueKeys)
    (hRead : Options.valuePattern? value? = .ok pattern?)
    (hAlone : ∀ source, value? = some source →
      (Pattern.read? source).isSome = true) :
    Lists t
      (fun p f => Judges t part name value? p ∧
        Demands t part name value? p f)
      ((EntryCheck.mk part name pattern?).visit t).findings.entries := by
  refine ⟨blocks t, (EntryCheck.mk part name pattern?).finding?,
    fun c => mem_blocks_iff hKeys, ?_, ?_, entries_visit hKeys⟩
  · exact (Cursor.descendants_pairwise (.atRoot t)).sublist
      List.filter_sublist
  · intro c hMember f
    have hOf := ((mem_blocks_iff hKeys).mp hMember).1
    exact finding?_iff_demands hOf hKeys hRead hAlone

/- A missing entry is reported only where it is judged to be missing. -/
theorem judges_of_missing
    {p : Path}
    {fs : List Finding}
    (hLists : Lists t
      (fun p f => Judges t part name value? p ∧
        Demands t part name value? p f) fs)
    (hMember : ⟨p, "missing:" ++ name⟩ ∈ fs) :
    Judges t part name value? p := by
  rcases hLists.mem_iff.mp hMember with ⟨q, _, hJudged, hDemanded⟩
  generalize hFinding : Finding.mk p ("missing:" ++ name) = f
    at hDemanded
  cases hDemanded with
  | missing _ =>
      cases hFinding
      exact hJudged
  | invalid _ _ _ =>
      -- The two messages begin with different letters.
      have hMessage := congrArg (·.message.toList.head?) hFinding
      simp at hMessage

end Configured

/-
  What a check reports of a document, which stays as it is.  Of
  each block that is judged it reports what is demanded there,
  and that is all that is demanded exactly if no block is
  passed over.
-/
structure Reports
    (t : Tree)
    (part : Section)
    (name : String)
    (value? : Option String)
    (v : Visit) : Prop where
  unchanged : v.root? = none
  lists : Lists t
    (fun p f => Judges t part name value? p ∧
      Demands t part name value? p f)
    v.findings.entries
  lists_all_iff :
    Lists t (Demands t part name value?) v.findings.entries ↔
      ∀ p, MetadataPath t p → Judges t part name value? p

/-
  A check without a pattern reports each metadata block that
  lacks the entry.  With a pattern it judges the entries that
  are there, and it reports each whose value does not fit.
-/
theorem visit_lists_demands
    {part : Section}
    {name : String}
    {value? : Option String}
    {r : Recipe}
    (t : Tree)
    (hKeys : t.UniqueKeys)
    (hBuild : Options.build (.checkEntry part name value?) = .ok r)
    (hAlone : ∀ source, value? = some source →
      (Pattern.read? source).isSome = true) :
    ∃ v, r.visit t = .ok v ∧ Reports t part name value? v := by
  rcases exists_of_bind_eq_ok hBuild with ⟨pattern?, hRead, hDone⟩
  cases hDone
  have hLists := lists_visit part name hKeys hRead hAlone
  refine ⟨_, rfl, rfl, hLists, ?_⟩
  constructor
  · intro hDemands p hMetadata
    by_cases hMissing : t.lookup? (entryUnder part name p) = none
    · exact judges_of_missing hLists
        (hDemands.mem_iff.mpr ⟨p, hMetadata, .missing hMissing⟩)
    · exact Or.inr (Option.isSome_iff_ne_none.mpr hMissing)
  · intro hJudges
    rcases hLists with ⟨cs, said?, hBlocks, hOrder, hSays, hEntries⟩
    refine ⟨cs, said?, hBlocks, hOrder, ?_, hEntries⟩
    intro c hMember f
    rw [hSays c hMember f]
    exact and_iff_right (hJudges _ ((hBlocks c).mp hMember).2)

/- A label that does not fit, one that does, and a block without it. -/
theorem visit_lists_demands_deployment :
    let r : EntryCheck :=
      ⟨.labels, "tier", ValuePattern.read? "[0-9]+"⟩
    let labelled (text : String) : Tree :=
      .mapping [("labels", .mapping [("tier", .string text)])]
    let t : Tree :=
      .mapping [("kind", .string "Deployment"),
        ("metadata", labelled "web3"),
        ("template", .mapping [("metadata", labelled "3")]),
        ("jobTemplate", .mapping [("metadata", .mapping [])])]
    let p : Path := [.field "metadata", .field "labels", .field "tier"]
    t.UniqueKeys ∧ (Pattern.read? "[0-9]+").isSome = true ∧
    Options.build (.checkEntry .labels "tier" (some "[0-9]+")) =
      .ok (.checkEntry r) ∧
    Reports t .labels "tier" (some "[0-9]+") (r.visit t) ∧
    (r.visit t).findings.entries = [⟨p, "invalid:[0-9]+"⟩] := by
  intro r labelled t p
  have hKeys : t.UniqueKeys := by decide
  have hAlone : (Pattern.read? "[0-9]+").isSome = true := by
    decide +kernel
  have hBuild :
      Options.build (.checkEntry .labels "tier" (some "[0-9]+")) =
        .ok (.checkEntry r) := by
    rfl
  rcases visit_lists_demands t hKeys hBuild (by simp [hAlone]) with
    ⟨v, hVisit, hReports⟩
  obtain rfl : r.visit t = v := Except.ok.inj hVisit
  exact ⟨hKeys, hAlone, hBuild, hReports, by decide +kernel⟩

/- A label that is missing is reported without a pattern only. -/
theorem passes_over_missing_label :
    let t : Tree :=
      .mapping [("metadata", .mapping [("name", .string "web")])]
    let p : Path := [.field "metadata"]
    t.UniqueKeys ∧
    (∃ r v, Options.build (.checkEntry .labels "tier" none) = .ok r ∧
      r.visit t = .ok v ∧
      v.findings.entries = [⟨p, "missing:tier"⟩]) ∧
    (∃ r v,
      Options.build (.checkEntry .labels "tier" (some "[a-z]+")) =
        .ok r ∧
      r.visit t = .ok v ∧ v.findings.entries = [] ∧
      ¬ Lists t (Demands t .labels "tier" (some "[a-z]+"))
        v.findings.entries) := by
  intro t p
  refine ⟨by decide,
    ⟨.checkEntry ⟨.labels, "tier", none⟩, _, rfl, rfl, by decide⟩, ?_⟩
  have hRead : (Pattern.readAnchored? "[a-z]+").isSome = true := by
    decide +kernel
  rcases Options.exists_valuePattern? hRead with ⟨q, hValue⟩
  refine ⟨_, _, Options.build_checkEntry_eq_ok hValue, rfl, rfl, ?_⟩
  intro hLists
  have hMetadata : MetadataPath t p :=
    ⟨⟨_, rfl, rfl⟩, [], Or.inl rfl, rfl⟩
  cases hLists.mem_iff.mpr ⟨p, hMetadata, .missing rfl⟩

theorem exists_mem_blocks
    {p : Path}
    (hKeys : t.UniqueKeys)
    (hMetadata : MetadataPath t p) :
    ∃ c ∈ blocks t, c.path = p := by
  rcases hMetadata.exists_isOf with ⟨c, hOf, rfl⟩
  exact ⟨c, (mem_blocks_iff hKeys).mpr ⟨hOf, hMetadata⟩, rfl⟩

/- What is said about a block stands alone at its place. -/
theorem messagesAt_place
    (r : EntryCheck)
    (hKeys : t.UniqueKeys)
    (hMember : c ∈ blocks t) :
    (r.visit t).findings.messagesAt (r.place c.path) =
      ((r.finding? c).map Finding.message).toList := by
  exact Findings.messagesAt_of_entries r.place (entries_visit hKeys)
    (fun _ hMember _ => path_of_finding? hKeys hMember)
    r.place_injective (nodup_paths_blocks hKeys) hMember

/- With a pattern, an entry is reported when its value is not accepted. -/
theorem messagesAt_visit_pattern
    (part : Section)
    (name : String)
    (q : ValuePattern)
    {p : Path}
    {n : Tree}
    (hKeys : t.UniqueKeys)
    (hMetadata : MetadataPath t p)
    (hEntry : t.lookup? (entryUnder part name p) = some n) :
    ((EntryCheck.mk part name (some q)).visit t).findings.messagesAt
        (entryUnder part name p) =
      if q.acceptsNode n then [] else ["invalid:" ++ q.source] := by
  rcases exists_mem_blocks hKeys hMetadata with ⟨c, hMember, rfl⟩
  have hOf := ((mem_blocks_iff hKeys).mp hMember).1
  have hMessages := messagesAt_place ⟨part, name, some q⟩ hKeys hMember
  rw [place] at hMessages
  rw [hMessages]
  rw [lookup?_entryUnder (r := ⟨part, name, some q⟩) hOf hKeys,
    Option.map_eq_some_iff] at hEntry
  rcases hEntry with ⟨d, hEntry, rfl⟩
  rw [finding?, hEntry]
  cases hAccepts : q.acceptsNode d.node <;> simp [hAccepts]

/- Without a pattern, a block is reported when it lacks the entry. -/
theorem messagesAt_visit_presence
    (part : Section)
    (name : String)
    {p : Path}
    (hKeys : t.UniqueKeys)
    (hMetadata : MetadataPath t p) :
    ((EntryCheck.mk part name none).visit t).findings.messagesAt p =
      if (t.lookup? (entryUnder part name p)).isSome then []
      else ["missing:" ++ name] := by
  rcases exists_mem_blocks hKeys hMetadata with ⟨c, hMember, rfl⟩
  have hOf := ((mem_blocks_iff hKeys).mp hMember).1
  have hMessages := messagesAt_place ⟨part, name, none⟩ hKeys hMember
  rw [place] at hMessages
  rw [hMessages, lookup?_entryUnder (r := ⟨part, name, none⟩) hOf hKeys,
    finding?]
  cases hEntry : EntryCheck.entry? ⟨part, name, none⟩ c <;> simp

end EntryCheck

------------------------------------------------------------
-- Found Annotations
------------------------------------------------------------

namespace AnnotationSearch

variable {r : AnnotationSearch} {t : Tree} {p : Path}

/- The annotations of the name, in order. -/
def entries (r : AnnotationSearch) (t : Tree) : List Cursor :=
  t.nodesWhere fun c =>
    Labelling.isEntry .annotations c && c.key? = some r.name

theorem mem_entries_iff
    {c : Cursor}
    (hKeys : t.UniqueKeys) :
    c ∈ r.entries t ↔ c.IsOf t ∧
      ∃ p, MetadataPath t p ∧
        c.path = entryUnder .annotations r.name p := by
  rw [entries, Tree.nodesWhere, List.mem_filter,
    Cursor.mem_descendants_iff]
  exact and_congr_right fun hOf =>
    Labelling.isEntry_iff .annotations r.name hOf hKeys

theorem nodup_paths_entries (hKeys : t.UniqueKeys) :
    ((r.entries t).map Cursor.path).Nodup := by
  exact (Cursor.nodup_paths_descendants hKeys).sublist
    (List.filter_sublist.map Cursor.path)

theorem place_of_mem_findings
    {f : Finding}
    (hKeys : t.UniqueKeys)
    (hMember : f ∈ (r.visit t).findings.entries) :
    ∃ p, MetadataPath t p ∧
      f.path = entryUnder .annotations r.name p := by
  rcases Findings.mem_ofNodes_iff.mp hMember with ⟨c, hEntry, hPath, _⟩
  rw [← hPath]
  exact ((mem_entries_iff hKeys).mp hEntry).2

/- What is said at the place of an annotation depends on the node there. -/
theorem messagesAt_visit
    (hKeys : t.UniqueKeys)
    (hMetadata : MetadataPath t p) :
    (r.visit t).findings.messagesAt
        (entryUnder .annotations r.name p) =
      ((t.lookup? (entryUnder .annotations r.name p)).bind
        r.message?).toList := by
  cases hNode : t.lookup? (entryUnder .annotations r.name p) with
  | none =>
      apply Findings.messagesAt_eq_nil
      intro f hMember hPath
      rcases Findings.mem_ofNodes_iff.mp hMember with
        ⟨c, hEntry, hSame, _⟩
      have hOf := ((mem_entries_iff hKeys).mp hEntry).1
      rw [← hPath, ← hSame, hOf.lookup?_path hKeys] at hNode
      cases hNode
  | some n =>
      rcases Cursor.exists_isOf_of_lookup? hNode with
        ⟨c, hOf, hPath, rfl⟩
      have hMember : c ∈ r.entries t :=
        (mem_entries_iff hKeys).mpr ⟨hOf, p, hMetadata, hPath⟩
      rw [← hPath]
      exact Findings.messagesAt_ofNodes (nodup_paths_entries hKeys)
        hMember

/- One of two says something, and the other says nothing. -/
def OneSays (first second : List String) (a b : String) : Prop :=
  (first = [a] ∧ second = []) ∨ (first = [] ∧ second = [b])

/-
  A search for annotations and a check of them leave the
  document as it is and divide its annotations between them.
  With a pattern, one of the two flags an annotation that is
  there; without a pattern, the search flags the annotation or
  the check flags the block.
-/
structure Divides
    (t : Tree)
    (name : String)
    (value? : Option String)
    (v w : Visit) : Prop where
  unchanged : v.root? = none ∧ w.root? = none
  given : ∀ p source, MetadataPath t p → value? = some source →
    (t.lookup? (entryUnder .annotations name p)).isSome = true →
      OneSays
        (v.findings.messagesAt (entryUnder .annotations name p))
        (w.findings.messagesAt (entryUnder .annotations name p))
        ("found:" ++ source) ("invalid:" ++ source)
  present : ∀ p, MetadataPath t p → value? = none →
    OneSays
      (v.findings.messagesAt (entryUnder .annotations name p))
      (w.findings.messagesAt p)
      ("found:" ++ name) ("missing:" ++ name)
  placed : ∀ f ∈ v.findings.entries, ∃ p, MetadataPath t p ∧
    f.path = entryUnder .annotations name p

/- Each search has a check with which it divides the annotations. -/
theorem search_complements_check
    {name : String}
    {value? : Option String}
    {r : Recipe}
    (t : Tree)
    (hKeys : t.UniqueKeys)
    (hBuild : Options.build (.searchAnnotations name value?) = .ok r) :
    ∃ r' v w,
      Options.build (.checkEntry .annotations name value?) = .ok r' ∧
      r.visit t = .ok v ∧ r'.visit t = .ok w ∧
      Divides t name value? v w := by
  rcases exists_of_bind_eq_ok hBuild with ⟨pattern?, hRead, hDone⟩
  cases hDone
  refine ⟨_, _, _, Options.build_checkEntry_eq_ok hRead, rfl, rfl,
    ⟨rfl, rfl⟩, ?_, ?_,
    fun f hMember => place_of_mem_findings hKeys hMember⟩
  · intro p source hMetadata hValue hGiven
    rcases Options.valuePattern?_eq_ok_iff.mp hRead with
      ⟨hNone, _⟩ | ⟨_, q, hSource, rfl, hPattern⟩
    · rw [hNone] at hValue
      cases hValue
    · rw [hSource, Option.some.injEq] at hValue
      subst hValue
      rcases Option.isSome_iff_exists.mp hGiven with ⟨n, hEntry⟩
      have hFound := messagesAt_visit (r := ⟨name, some q⟩) hKeys
        hMetadata
      have hInvalid := EntryCheck.messagesAt_visit_pattern .annotations
        name q hKeys hMetadata hEntry
      rw [hEntry, Option.bind_some] at hFound
      rw [hFound, hInvalid,
        ← (ValuePattern.read?_eq_some_iff.mp hPattern).1]
      cases hAccepts : q.acceptsNode n with
      | true => exact Or.inl ⟨by simp [message?, hAccepts], rfl⟩
      | false => exact Or.inr ⟨by simp [message?, hAccepts], rfl⟩
  · intro p hMetadata hValue
    rcases Options.valuePattern?_eq_ok_iff.mp hRead with
      ⟨_, rfl⟩ | ⟨_, _, hSource, _⟩
    · have hFound := messagesAt_visit (r := ⟨name, none⟩) hKeys
        hMetadata
      rw [hFound, EntryCheck.messagesAt_visit_presence .annotations name
        hKeys hMetadata]
      cases t.lookup? (entryUnder .annotations name p) with
      | none => exact Or.inr ⟨rfl, rfl⟩
      | some n => exact Or.inl ⟨rfl, rfl⟩
    · rw [hValue] at hSource
      cases hSource

/-
  An annotation that fits is found, one that is null is
  invalid, and nothing is said about a block without it.
-/
theorem search_complements_check_deployment :
    let pattern? := ValuePattern.read? "team-."
    let search : AnnotationSearch := ⟨"owner", pattern?⟩
    let check : EntryCheck := ⟨.annotations, "owner", pattern?⟩
    let annotated (owner : Tree) : Tree :=
      .mapping [("annotations", .mapping [("owner", owner)])]
    let t : Tree :=
      .mapping [("kind", .string "Deployment"),
        ("metadata", annotated (.string "team-a")),
        ("template", .mapping [("metadata", annotated .null)]),
        ("jobTemplate", .mapping [("metadata", .mapping [])])]
    let p : Path :=
      [.field "metadata", .field "annotations", .field "owner"]
    Options.build (.searchAnnotations "owner" (some "team-.")) =
      .ok (.searchAnnotations search) ∧
    t.UniqueKeys ∧
    Divides t "owner" (some "team-.") (search.visit t)
      (check.visit t) ∧
    (search.visit t).findings.entries = [⟨p, "found:team-."⟩] ∧
    (check.visit t).findings.entries =
      [⟨.field "template" :: p, "invalid:team-."⟩] := by
  intro pattern? search check annotated t p
  have hKeys : t.UniqueKeys := by decide
  have hBuild :
      Options.build (.searchAnnotations "owner" (some "team-.")) =
        .ok (.searchAnnotations search) := by
    rfl
  rcases search_complements_check t hKeys hBuild with
    ⟨r', v, w, hCheck, hFound, hChecked, hDivides⟩
  obtain rfl : Recipe.checkEntry check = r' := Except.ok.inj hCheck
  obtain rfl : search.visit t = v := Except.ok.inj hFound
  obtain rfl : check.visit t = w := Except.ok.inj hChecked
  exact ⟨hBuild, hKeys, hDivides, by decide +kernel,
    by decide +kernel⟩

end AnnotationSearch

end ManifestRecipes
