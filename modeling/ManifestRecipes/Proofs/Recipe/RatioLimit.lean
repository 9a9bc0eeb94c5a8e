import ManifestRecipes.Proofs.Findings
import ManifestRecipes.Proofs.Quantity.Ratio
import ManifestRecipes.Proofs.Recipe.Visit
import ManifestRecipes.Proofs.Workload
import ManifestRecipes.Recipe.Options

/-
  Limits that are too large a multiple of the request.

  The search compares the two quantities of each container that
  has both, initial containers included, and fails when one of
  them is not a written quantity.  Within 128 bits it compares
  rational numbers, and then neither the units nor the way in
  which the ratio is written matter.

  Key definitions include:
    * `RatioLimit.Compares`
    * `RatioLimit.Measures`
    * `RatioLimit.judge`
    * `RatioLimit.Configured`
    * `RatioLimit.Judges`

  Main declarations:
    * `RatioLimit.isExceeded_cases`
    * `RatioLimit.exists_node_iff`
    * `RatioLimit.isError_find_iff`
    * `RatioLimit.flags_iff`
    * `RatioLimit.find_flags_beyond_ratio`
-/

namespace ManifestRecipes

namespace RatioLimit

variable {l : RatioLimit} {t : Tree} {p : Path} {n : Tree}
variable {s s' : Scalar} {c : Cursor} {v : Visit} {a b : Nat}

------------------------------------------------------------
-- Compared Quantities
------------------------------------------------------------

/-
  The resources at a path have a limit and a request of the
  resource, both of them scalars that are not null.
-/
structure Compares
    (l : RatioLimit)
    (t : Tree)
    (p : Path)
    (limit request : Scalar) : Prop where
  limit : t.HoldsText (Workload.QuantityPath .limits l.kind t)
    (Workload.quantityUnder .limits l.kind p) limit
  request : t.HoldsText (Workload.QuantityPath .requests l.kind t)
    (Workload.quantityUnder .requests l.kind p) request

/- The limit and the request stand for numbers of steps. -/
def Measures
    (l : RatioLimit)
    (t : Tree)
    (p : Path)
    (a b : Nat) : Prop :=
  ∃ limit request, l.Compares t p limit request ∧
    Quantity.Amounts limit.text a ∧
    Quantity.Amounts request.text b

/- The resources at a path have one limit and one request. -/
theorem Compares.unique
    {r r' : Scalar}
    (hLeft : l.Compares t p s s')
    (hRight : l.Compares t p r r') :
    s = r ∧ s' = r' := by
  exact ⟨Tree.scalar_eq_of_lookup? hLeft.limit.node
      hRight.limit.node,
    Tree.scalar_eq_of_lookup? hLeft.request.node
      hRight.request.node⟩

/- The text under a bound is that of the scalar at its place. -/
theorem boundText?_eq_some_iff
    {bound : ResourceBound}
    {text : String}
    (hNode : t.lookup? p = some n)
    (hPlace : Workload.ResourcesPath t p) :
    l.boundText? bound n = some text ↔
      ∃ s, s.text = text ∧
        t.HoldsText (Workload.QuantityPath bound l.kind t)
          (Workload.quantityUnder bound l.kind p) s := by
  have hText : l.boundText? bound n =
      (t.lookup? (Workload.quantityUnder bound l.kind p)).bind
        Tree.text? := by
    rw [Workload.quantityUnder, Tree.lookup?_append, hNode,
      Option.bind_some, Tree.lookup?_cons, Option.bind_assoc,
      boundText?, Tree.get?_eq_child?]
    simp only [Tree.textAt?_eq_lookup?]
  have hQuantity : Workload.QuantityPath bound l.kind t
      (Workload.quantityUnder bound l.kind p) :=
    Workload.quantityPath_under_iff.mpr hPlace
  rw [hText, Option.bind_eq_some_iff]
  constructor
  · rintro ⟨m, hFound, hGiven⟩
    rcases Tree.text?_eq_some_iff.mp hGiven with
      ⟨s, rfl, hNull, hSame⟩
    exact ⟨s, hSame, hQuantity, hFound, hNull⟩
  · rintro ⟨s, hSame, hHolds⟩
    exact ⟨_, hHolds.node, Tree.text?_eq_some_iff.mpr
      ⟨s, rfl, hHolds.text, hSame⟩⟩

/- What is made of the texts of a limit and a request. -/
def judge (l : RatioLimit) (limit request : String) :
    Except Quantity.Fault Bool := do
  let limit ← Quantity.read limit
  let request ← Quantity.read request
  .ok (l.ratio.exceeded limit request)

/- It fails when one of the texts is not a written quantity. -/
theorem isError_judge_iff {limit request : String} :
    (∃ f, l.judge limit request = .error f) ↔
      ¬ ((∃ k u, Quantity.Written limit k u) ∧
        ∃ k u, Quantity.Written request k u) := by
  rw [not_and_or, ← Quantity.isError_read_iff,
    ← Quantity.isError_read_iff, judge]
  cases Quantity.read limit <;>
    cases Quantity.read request <;> simp [bind, Except.bind]

theorem judge_eq_true_iff {limit request : String} :
    l.judge limit request = .ok true ↔
      ∃ x y, Quantity.read limit = .ok x ∧
        Quantity.read request = .ok y ∧
          l.ratio.exceeded x y = true := by
  simp only [judge, bind_eq_ok_iff, Except.ok.injEq,
    exists_and_left]

------------------------------------------------------------
-- Search
------------------------------------------------------------

theorem mem_nodesWhere_iff :
    c ∈ t.nodesWhere Workload.isResources ↔
      c.IsOf t ∧ c.node.isMapping = true ∧
        Workload.ResourcesPath t c.path := by
  rw [Tree.nodesWhere, List.mem_filter, Cursor.mem_descendants_iff]
  exact and_congr_right Workload.isResources_iff

/- Resources with both quantities are looked at. -/
theorem Compares.exists_node
    (hCompares : l.Compares t p s s') :
    ∃ c ∈ t.nodesWhere Workload.isResources, c.path = p := by
  have hPlace : Workload.ResourcesPath t p :=
    Workload.quantityPath_under_iff.mp hCompares.limit.place
  have hNode := hCompares.limit.node
  rw [Workload.quantityUnder, Tree.lookup?_append,
    Option.bind_eq_some_iff] at hNode
  rcases hNode with ⟨n, hResources, hBelow⟩
  rcases Cursor.exists_isOf_of_lookup? hResources with
    ⟨c, hOf, rfl, rfl⟩
  rw [Tree.lookup?_cons, Option.bind_eq_some_iff] at hBelow
  rcases hBelow with ⟨m, hStep, _⟩
  rcases Tree.child?_eq_some_iff.mp hStep with
    ⟨_, _, _, hField, _⟩ | ⟨es, k, hMapping, _, _⟩
  · cases hField
  · refine ⟨c, mem_nodesWhere_iff.mpr ⟨hOf, ?_, hPlace⟩, rfl⟩
    rw [hMapping, Tree.isMapping]

/-
  Resources with both quantities are judged by their texts, and
  others are passed over.
-/
theorem isExceeded_cases
    (hKeys : t.UniqueKeys)
    (hMember : c ∈ t.nodesWhere Workload.isResources) :
    (∃ s s', l.Compares t c.path s s' ∧
      l.isExceeded c.node = l.judge s.text s'.text) ∨
    ((¬ ∃ s s', l.Compares t c.path s s') ∧
      l.isExceeded c.node = .ok false) := by
  rcases mem_nodesWhere_iff.mp hMember with ⟨hOf, _, hPlace⟩
  have hText : ∀ bound text,
      l.boundText? bound c.node = some text ↔ _ :=
    fun _ _ => boundText?_eq_some_iff (hOf.lookup?_path hKeys) hPlace
  unfold isExceeded
  split
  · rename_i limit request hLimit hRequest
    rcases (hText _ _).mp hLimit with ⟨s, rfl, hHolds⟩
    rcases (hText _ _).mp hRequest with ⟨s', rfl, hHolds'⟩
    exact Or.inl ⟨s, s', ⟨hHolds, hHolds'⟩, rfl⟩
  · rename_i hOther
    refine Or.inr ⟨?_, rfl⟩
    rintro ⟨s, s', hCompares⟩
    exact hOther s.text s'.text
      ((hText _ _).mpr ⟨s, rfl, hCompares.limit⟩)
      ((hText _ _).mpr ⟨s', rfl, hCompares.request⟩)

/-
  Other verdicts than that a node is passed over come from the
  texts that are compared at its place.
-/
theorem exists_node_iff
    {verdict : Except Quantity.Fault Bool}
    (hKeys : t.UniqueKeys)
    (hOther : verdict ≠ .ok false) :
    (∃ c ∈ t.nodesWhere Workload.isResources,
      c.path = p ∧ l.isExceeded c.node = verdict) ↔
      ∃ s s', l.Compares t p s s' ∧
        l.judge s.text s'.text = verdict := by
  constructor
  · rintro ⟨c, hMember, rfl, hVerdict⟩
    rcases isExceeded_cases hKeys hMember with
      ⟨s, s', hCompares, hJudged⟩ | ⟨_, hPassed⟩
    · exact ⟨s, s', hCompares, hJudged.symm.trans hVerdict⟩
    · exact absurd (hVerdict.symm.trans hPassed) hOther
  · rintro ⟨s, s', hCompares, hVerdict⟩
    rcases hCompares.exists_node with ⟨c, hMember, rfl⟩
    refine ⟨c, hMember, rfl, ?_⟩
    rcases isExceeded_cases hKeys hMember with
      ⟨r, r', hSame, hJudged⟩ | ⟨hNone, _⟩
    · rcases hCompares.unique hSame with ⟨rfl, rfl⟩
      exact hJudged.trans hVerdict
    · exact absurd ⟨s, s', hCompares⟩ hNone

/- The search fails when one of the texts is not a written quantity. -/
theorem isError_find_iff (hKeys : t.UniqueKeys) :
    (∃ f, l.find t = .error f) ↔
      ∃ p s s', l.Compares t p s s' ∧
        ¬ ((∃ k u, Quantity.Written s.text k u) ∧
          ∃ k u, Quantity.Written s'.text k u) := by
  have hFails : (∃ f, l.find t = .error f) ↔
      ∃ c ∈ t.nodesWhere Workload.isResources,
        ∃ f, l.isExceeded c.node = .error f := by
    rw [← filterM_isError_iff, find]
    cases (t.nodesWhere Workload.isResources).filterM fun c =>
      l.isExceeded c.node <;> simp [bind, Except.bind]
  have hPlaces : ∀ p f,
      (∃ c ∈ t.nodesWhere Workload.isResources,
        c.path = p ∧ l.isExceeded c.node = .error f) ↔ _ :=
    fun _ _ => exists_node_iff hKeys (by simp)
  rw [hFails]
  simp only [← isError_judge_iff (l := l)]
  constructor
  · rintro ⟨c, hMember, f, hError⟩
    rcases (hPlaces c.path f).mp ⟨c, hMember, rfl, hError⟩ with
      ⟨s, s', hCompares, hJudged⟩
    exact ⟨c.path, s, s', hCompares, f, hJudged⟩
  · rintro ⟨p, s, s', hCompares, f, hJudged⟩
    rcases (hPlaces p f).mpr ⟨s, s', hCompares, hJudged⟩ with
      ⟨c, hMember, _, hError⟩
    exact ⟨c, hMember, f, hError⟩

/- What is found are the resources that are judged beyond the ratio. -/
theorem eq_found_of_find_eq_ok (hDone : l.find t = .ok v) :
    v = Visit.found
      (Findings.ofNodes
        ((t.nodesWhere Workload.isResources).filter fun c =>
          (l.isExceeded c.node).toOption = some true)
        fun _ => some l.message) := by
  rcases exists_of_bind_eq_ok hDone with ⟨cs, hChosen, hFound⟩
  cases hFound
  rw [← eq_filter_of_filterM_eq_ok hChosen]

/- The places that are flagged are those beyond the ratio. -/
theorem flags_iff
    (hKeys : t.UniqueKeys)
    (hDone : l.find t = .ok v) :
    v.Flags p ↔
      ∃ s s', l.Compares t p s s' ∧
        l.judge s.text s'.text = .ok true := by
  rw [eq_found_of_find_eq_ok hDone, Visit.flags_found_iff,
    ← exists_node_iff hKeys (by simp)]
  simp only [List.mem_filter, decide_eq_true_eq]
  constructor
  · rintro ⟨c, ⟨hMember, hBeyond⟩, hPath⟩
    exact ⟨c, hMember, hPath, eq_ok_of_toOption hBeyond⟩
  · rintro ⟨c, hMember, hPath, hBeyond⟩
    exact ⟨c, ⟨hMember, congrArg Except.toOption hBeyond⟩, hPath⟩

theorem exists_measures_of_flags
    (hKeys : t.UniqueKeys)
    (hDone : l.find t = .ok v)
    (hFlags : v.Flags p) :
    ∃ a b, l.Measures t p a b := by
  rcases (flags_iff hKeys hDone).mp hFlags with
    ⟨s, s', hCompares, hJudged⟩
  rcases judge_eq_true_iff.mp hJudged with
    ⟨limit, request, hLimit, hRequest, _⟩
  exact ⟨_, _, s, s', hCompares,
    Quantity.amounts_iff.mpr ⟨limit, hLimit, rfl⟩,
    Quantity.amounts_iff.mpr ⟨request, hRequest, rfl⟩⟩

/- Within 128 bits the rational numbers decide. -/
theorem Measures.flags_iff_lt
    (hMeasures : l.Measures t p a b)
    (hFits : l.ratio.Fits a b)
    (hPos : 0 < l.ratio.denominator)
    (hKeys : t.UniqueKeys)
    (hDone : l.find t = .ok v) :
    v.Flags p ↔ (b : ℚ) * l.ratio.value < a := by
  rcases hMeasures with ⟨s, s', hCompares, hAmount, hAmount'⟩
  rcases Quantity.amounts_iff.mp hAmount with ⟨limit, hLimit, rfl⟩
  rcases Quantity.amounts_iff.mp hAmount' with
    ⟨request, hRequest, rfl⟩
  have hJudged : l.judge s.text s'.text =
      .ok (l.ratio.exceeded limit request) := by
    rw [judge, hLimit, hRequest]
    rfl
  rw [flags_iff hKeys hDone, ← Ratio.exceeded_iff hFits hPos]
  constructor
  · rintro ⟨r, r', hOther, hBeyond⟩
    rcases hCompares.unique hOther with ⟨rfl, rfl⟩
    rwa [hJudged, Except.ok.injEq] at hBeyond
  · intro hBeyond
    exact ⟨s, s', hCompares, hBeyond ▸ hJudged⟩

------------------------------------------------------------
-- Judged Documents
------------------------------------------------------------

/- A limit that its own options make. -/
def Configured (l : RatioLimit) : Prop :=
  Options.build (.findRatio l.kind l.source) = .ok (.findRatio l)

/- Options make a limit when its ratio is read. -/
theorem build_eq_ok_iff
    {kind : ResourceKind}
    {source : String}
    {r : Recipe} :
    Options.build (.findRatio kind source) = .ok r ↔
      ∃ ratio, Ratio.read source = .ok ratio ∧
        r = .findRatio ⟨kind, source, ratio⟩ := by
  unfold Options.build Options.ratioLimit
  cases hRead : Ratio.read source <;>
    simp [hRead, bind, Except.bind, Except.mapError, eq_comm]

theorem configured_iff :
    l.Configured ↔ Ratio.read l.source = .ok l.ratio := by
  rcases l with ⟨kind, source, ratio⟩
  simp [Configured, build_eq_ok_iff]

/-
  A visit lists the resources of a document that are beyond
  the ratio, each of them once and all in document order.  It
  tells of no others than those with both quantities, and of
  these the ones whose limit is more than the ratio allows.
-/
structure Judges
    (l : RatioLimit)
    (t : Tree)
    (v : Visit) : Prop where
  unwritten : v.root? = none
  listed : ∃ cs : List Cursor,
    v.findings.entries = cs.map (fun c => ⟨c.path, l.message⟩) ∧
    (cs.map Cursor.path).Nodup ∧
    (cs.Pairwise fun c d => c.orderKey < d.orderKey) ∧
    ∀ c ∈ cs, c.IsOf t
  measured : ∀ p, v.Flags p → ∃ a b, l.Measures t p a b
  exact : ∀ p a b, l.Measures t p a b → l.ratio.Fits a b →
    (v.Flags p ↔ (b : ℚ) * l.ratio.value < a)

/- A search that does not fail judges the document. -/
theorem judges_of_find_eq_ok
    (hPos : 0 < l.ratio.denominator)
    (hKeys : t.UniqueKeys)
    (hDone : l.find t = .ok v) :
    l.Judges t v := by
  have hFound := eq_found_of_find_eq_ok hDone
  have hSublist : ((t.nodesWhere Workload.isResources).filter
      fun c => (l.isExceeded c.node).toOption = some true).Sublist
        (Cursor.atRoot t).descendants :=
    List.filter_sublist.trans List.filter_sublist
  have hPaths := (Cursor.nodup_paths_descendants hKeys).sublist
    (hSublist.map Cursor.path)
  refine ⟨hFound ▸ rfl, ⟨_, ?_, hPaths, ?_, ?_⟩, ?_, ?_⟩
  · rw [hFound]
    exact Findings.entries_ofNodes_const hPaths
  · exact (Cursor.descendants_pairwise (.atRoot t)).sublist hSublist
  · intro c hMember
    exact Cursor.mem_descendants_iff.mp (hSublist.subset hMember)
  · intro p
    exact exists_measures_of_flags hKeys hDone
  · intro p a b hMeasures hFits
    exact hMeasures.flags_iff_lt hFits hPos hKeys hDone

/-
  Two visits flag the resources at two places alike: those of
  the larger ratio are flagged only with the others, and those
  of equal ratios together.
-/
structure FlagsAlike
    (l l' : RatioLimit)
    (v v' : Visit)
    (p p' : Path) : Prop where
  fewer : l.ratio.value ≤ l'.ratio.value →
    v'.Flags p' → v.Flags p
  equal : l'.ratio.value = l.ratio.value →
    (v'.Flags p' ↔ v.Flags p)
  multiple : ∀ k, 0 < k →
    l'.ratio = ⟨k * l.ratio.numerator, k * l.ratio.denominator⟩ →
      (v'.Flags p' ↔ v.Flags p)

/- Equal amounts within 128 bits are flagged alike. -/
theorem flagsAlike_of_judges
    {l' : RatioLimit}
    {t' : Tree}
    {v' : Visit}
    {p' : Path}
    (hJudges : l.Judges t v)
    (hJudges' : l'.Judges t' v')
    (hMeasures : l.Measures t p a b)
    (hMeasures' : l'.Measures t' p' a b)
    (hFits : l.ratio.Fits a b)
    (hFits' : l'.ratio.Fits a b) :
    FlagsAlike l l' v v' p p' := by
  have hExact := hJudges.exact p a b hMeasures hFits
  have hExact' := hJudges'.exact p' a b hMeasures' hFits'
  have hEqual : l'.ratio.value = l.ratio.value →
      (v'.Flags p' ↔ v.Flags p) := by
    intro hValue
    rw [hExact, hExact', hValue]
  refine ⟨?_, hEqual, ?_⟩
  · intro hLe hFlags
    have hRequest : (0 : ℚ) ≤ b := Nat.cast_nonneg b
    rw [hExact]
    calc
      (b : ℚ) * l.ratio.value ≤ b * l'.ratio.value :=
        mul_le_mul_of_nonneg_left hLe hRequest
      _ < a := hExact'.mp hFlags
  · intro k hPos hMultiple
    apply hEqual
    rw [hMultiple]
    exact Ratio.value_multiple hPos

/-
  The search looks at the containers with a limit and a request
  of the resource and fails when one of these is not a written
  quantity.  Otherwise it lists the resources whose limit is
  more than the ratio allows, wherever the products have 128
  bits, as they do with numbers up to 16.  Equal amounts are
  flagged alike in all units and by all spellings of a ratio,
  and a larger ratio flags no more of them.
-/
theorem find_flags_beyond_ratio
    (l : RatioLimit)
    (t : Tree)
    (hConfigured : l.Configured)
    (hKeys : t.UniqueKeys) :
    ((∃ f, (Recipe.findRatio l).visit t = .error f) ↔
      ∃ p s s', l.Compares t p s s' ∧
        ¬ ((∃ k u, Quantity.Written s.text k u) ∧
          ∃ k u, Quantity.Written s'.text k u)) ∧
    (∀ v, (Recipe.findRatio l).visit t = .ok v → l.Judges t v) ∧
    (l.ratio.numerator ≤ 16 → l.ratio.denominator ≤ 16 →
      ∀ limit request a b, Quantity.Amounts limit a →
        Quantity.Amounts request b → l.ratio.Fits a b) ∧
    ∀ l' t' v v' p p' a b, l'.Configured → t'.UniqueKeys →
      (Recipe.findRatio l).visit t = .ok v →
      (Recipe.findRatio l').visit t' = .ok v' →
      l.Measures t p a b → l'.Measures t' p' a b →
      l.ratio.Fits a b → l'.ratio.Fits a b →
        FlagsAlike l l' v v' p p' := by
  have hPos : ∀ l : RatioLimit, l.Configured →
      0 < l.ratio.denominator := by
    intro l hConfigured
    have hRead := configured_iff.mp hConfigured
    exact (Ratio.read_eq_ok_iff.mp hRead).1.denominator_pos
  refine ⟨isError_find_iff hKeys, ?_, ?_, ?_⟩
  · intro v hDone
    exact judges_of_find_eq_ok (hPos l hConfigured) hKeys hDone
  · intro hNumerator hDenominator limit request a b hLimit hRequest
    exact Ratio.fits_of_le hNumerator hDenominator hLimit hRequest
  · intro l' t' v v' p p' a b hConfigured' hKeys' hDone hDone'
    exact flagsAlike_of_judges
      (judges_of_find_eq_ok (hPos l hConfigured) hKeys hDone)
      (judges_of_find_eq_ok (hPos l' hConfigured') hKeys' hDone')

/-
  A limit in other units than the request, once at the ratio
  and once beyond it, and a container without a request.
-/
theorem find_flags_beyond_ratio_pod :
    let l : RatioLimit := ⟨.memory, "1.5", ⟨15, 10⟩⟩
    let amount (text : String) : Tree :=
      .mapping [("memory", .string text)]
    let container (bounds : Mapping Tree) : Tree :=
      .mapping [("resources", .mapping bounds)]
    let t : Tree :=
      .mapping [("kind", .string "Pod"),
        ("spec", .mapping [
          ("containers", .sequence [
            container [("limits", amount "96Mi"),
              ("requests", amount "65536Ki")],
            container [("limits", amount "1.5")]]),
          ("initContainers", .sequence [
            container [("limits", amount "1Gi"),
              ("requests", amount "512Mi")]])])]
    let p : Path := [.field "spec", .field "initContainers",
      .index 0, .field "resources"]
    l.Configured ∧ t.UniqueKeys ∧
    ∃ v, l.find t = .ok v ∧ l.Judges t v ∧
      v.findings.entries = [⟨p, l.message⟩] := by
  intro l amount container t p
  have hConfigured : l.Configured :=
    configured_iff.mpr (eq_ok_of_toOption (by decide +kernel))
  have hKeys : t.UniqueKeys := by decide +kernel
  have hDone : l.find t =
      .ok (Visit.found (Findings.ofList [⟨p, l.message⟩])) :=
    eq_ok_of_toOption (by decide +kernel)
  rcases find_flags_beyond_ratio l t hConfigured hKeys with
    ⟨_, hJudges, _, _⟩
  exact ⟨hConfigured, hKeys, _, hDone, hJudges _ hDone,
    by decide +kernel⟩

end RatioLimit

end ManifestRecipes
