import ManifestRecipes.Proofs.Recipe.Change
import ManifestRecipes.Run

/-
  What a run makes of a manifest.

  The documents are visited one by one, and what comes of each
  is listed under its position.  Runs of consecutive parts of
  a manifest make up the run of the whole.

  Key definitions include:
    * `Recipe.after`
    * `Recipe.findingsIn`
    * `Recipe.faultIn?`
    * `Run.shift`
    * `Manifest.At`
    * `Run.Describes`
    * `Run.Exact`

  Main declarations:
    * `Run.describes_error`
    * `Run.describes_ok`
    * `Run.Describes.append`
    * `Recipe.describes_runFrom`
    * `Recipe.documents_runFrom`
    * `Recipe.findings_runFrom`
    * `Recipe.faults_runFrom`
    * `Recipe.isOk_run_iff`
    * `Recipe.runFrom_append`
    * `Recipe.run_exact`
-/

namespace ManifestRecipes

------------------------------------------------------------
-- Positions
------------------------------------------------------------

/-
  A document stands at a position, where the first of the
  manifest stands at a given one.
-/
def Manifest.At
    (first : Nat)
    (m : Manifest)
    (i : Nat)
    (t : Tree) : Prop :=
  ∃ j, i = first + j ∧ m[j]? = some t

namespace Manifest

variable {first i : Nat} {m n : Manifest} {t u : Tree}

theorem at_zero_iff : At 0 m i t ↔ m[i]? = some t := by
  simp [At]

theorem not_at_nil : ¬ At first [] i t := by
  simp [At]

/- One document stands at the first position. -/
theorem at_singleton_iff :
    At first [u] i t ↔ i = first ∧ u = t := by
  unfold At
  constructor
  · intro hAt
    rcases hAt with ⟨j, rfl, hDocument⟩
    cases j with
    | zero => simpa using hDocument
    | succ j => simp at hDocument
  · intro hSame
    rcases hSame with ⟨rfl, rfl⟩
    exact ⟨0, rfl, rfl⟩

/- Documents of a second part stand behind those of the first. -/
theorem at_append_iff :
    At first (m ++ n) i t ↔
      At first m i t ∨ At (first + m.length) n i t := by
  unfold At
  constructor
  · intro hAt
    rcases hAt with ⟨j, rfl, hDocument⟩
    by_cases hLeft : j < m.length
    · rw [List.getElem?_append_left hLeft] at hDocument
      exact Or.inl ⟨j, rfl, hDocument⟩
    · have hRight : m.length ≤ j := by omega
      rw [List.getElem?_append_right hRight] at hDocument
      exact Or.inr ⟨j - m.length, by omega, hDocument⟩
  · intro hCases
    rcases hCases with ⟨j, rfl, hDocument⟩ | ⟨j, rfl, hDocument⟩
    · have hLeft : j < m.length :=
        (List.getElem?_eq_some_iff.mp hDocument).1
      refine ⟨j, rfl, ?_⟩
      rw [List.getElem?_append_left hLeft]
      exact hDocument
    · refine ⟨m.length + j, by omega, ?_⟩
      rw [List.getElem?_append_right (by omega),
        Nat.add_sub_cancel_left]
      exact hDocument

theorem At.bounds (hAt : At first m i t) :
    first ≤ i ∧ i < first + m.length := by
  rcases hAt with ⟨j, rfl, hDocument⟩
  have hInside : j < m.length :=
    (List.getElem?_eq_some_iff.mp hDocument).1
  omega

end Manifest

------------------------------------------------------------
-- Runs of Parts
------------------------------------------------------------

namespace Recipe

/-
  The document after a recipe; it stays as it was where the
  visit fails.
-/
def after (r : Recipe) (t : Tree) : Tree :=
  match r.visit t with
  | .ok v => v.result t
  | .error _ => t

/- The findings about a document; there are none if the visit fails. -/
def findingsIn (r : Recipe) (t : Tree) : List Finding :=
  match r.visit t with
  | .ok v => v.findings.entries
  | .error _ => []

/- What is wrong with a document whose visit fails. -/
def faultIn? (r : Recipe) (t : Tree) : Option Quantity.Fault :=
  match r.visit t with
  | .ok _ => none
  | .error f => some f

/- Nothing is wrong with a document whose visit succeeds. -/
theorem faultIn?_eq_none_iff {r : Recipe} {t : Tree} :
    r.faultIn? t = none ↔ ∃ v, r.visit t = .ok v := by
  unfold faultIn?
  cases r.visit t <;> simp

end Recipe

namespace Run

/- The same run of documents that stand at later positions. -/
def shift (a : Run) (d : Nat) : Run :=
  ⟨a.documents,
    a.findings.map fun e => (e.1 + d, e.2),
    a.changed.map (· + d),
    a.faults.map fun e => (e.1 + d, e.2)⟩

variable {r : Recipe} {first : Nat} {m n : Manifest} {a b : Run}

/-
  A run lists what comes of the documents of a manifest by
  their positions, which count from a given first one.
-/
structure Describes
    (r : Recipe)
    (first : Nat)
    (m : Manifest)
    (a : Run) : Prop where
  documents : a.documents = m.map r.after
  changed : ∀ i, i ∈ a.changed ↔
    ∃ t, m.At first i t ∧ r.after t ≠ t
  ordered : a.changed.Pairwise (· < ·)
  faults : ∀ i f, (i, f) ∈ a.faults ↔
    ∃ t, m.At first i t ∧ r.visit t = .error f
  findings : ∀ i f, (i, f) ∈ a.findings ↔
    ∃ t v, m.At first i t ∧ r.visit t = .ok v ∧
      f ∈ v.findings.entries

theorem describes_empty : empty.Describes r first [] := by
  constructor <;> simp [empty, Manifest.not_at_nil]

/- A failed visit lists its fault. -/
theorem describes_error
    {t : Tree}
    {f : Quantity.Fault}
    (hVisit : r.visit t = .error f) :
    (ofVisit first t (.error f)).Describes r first [t] := by
  have hKept : r.after t = t := by
    unfold Recipe.after
    rw [hVisit]
  constructor
  · rw [List.map_singleton, hKept]
    rfl
  · intro i
    simp [ofVisit, Manifest.at_singleton_iff, hKept]
  · exact List.Pairwise.nil
  · intro i g
    simp [ofVisit, Manifest.at_singleton_iff, hVisit, eq_comm]
  · intro i g
    simp [ofVisit, Manifest.at_singleton_iff, hVisit]

/- Another one lists its findings, and the document if it is rewritten. -/
theorem describes_ok
    {t : Tree}
    {v : Visit}
    (hVisit : r.visit t = .ok v)
    (hTruthful : v.Truthful t) :
    (ofVisit first t (.ok v)).Describes r first [t] := by
  have hAfter : r.after t = v.result t := by
    unfold Recipe.after
    rw [hVisit]
  have hChanged := hTruthful.isSome_iff
  constructor
  · rw [List.map_singleton, hAfter]
    rfl
  · intro i
    by_cases hRewritten : v.root?.isSome = true
    · have hOther := hChanged.mp hRewritten
      simp [ofVisit, Manifest.at_singleton_iff, hAfter, hRewritten,
        hOther]
    · have hSame : v.result t = t := by
        by_contra hOther
        exact hRewritten (hChanged.mpr hOther)
      simp [ofVisit, Manifest.at_singleton_iff, hAfter, hRewritten,
        hSame]
  · by_cases hRewritten : v.root?.isSome = true <;>
      simp [ofVisit, hRewritten]
  · intro i g
    simp [ofVisit, Manifest.at_singleton_iff, hVisit]
  · intro i g
    have hSame : first = i ↔ i = first := eq_comm
    simp [ofVisit, Manifest.at_singleton_iff, hVisit, hSame,
      and_comm]

/- Runs of consecutive parts list what comes of both. -/
theorem Describes.append
    (hLeft : a.Describes r first m)
    (hRight : b.Describes r (first + m.length) n) :
    (a.append b).Describes r first (m ++ n) where
  documents := by
    simp [Run.append, hLeft.documents, hRight.documents]
  changed := by
    intro i
    simp only [Run.append, List.mem_append, hLeft.changed,
      hRight.changed, Manifest.at_append_iff, or_and_right,
      exists_or]
  ordered := by
    refine List.pairwise_append.mpr
      ⟨hLeft.ordered, hRight.ordered, ?_⟩
    intro i hBefore j hBehind
    rcases (hLeft.changed i).mp hBefore with ⟨_, hAt, _⟩
    rcases (hRight.changed j).mp hBehind with ⟨_, hAt', _⟩
    have hUpper := hAt.bounds.2
    have hLower := hAt'.bounds.1
    omega
  faults := by
    intro i f
    simp only [Run.append, List.mem_append, hLeft.faults,
      hRight.faults, Manifest.at_append_iff, or_and_right,
      exists_or]
  findings := by
    intro i f
    simp only [Run.append, List.mem_append, hLeft.findings,
      hRight.findings, Manifest.at_append_iff, or_and_right,
      exists_or]

theorem shift_append (a b : Run) (d : Nat) :
    (a.append b).shift d = (a.shift d).append (b.shift d) := by
  simp [append, shift]

/- What comes of a document does not depend on its position. -/
theorem ofVisit_shift
    (i d : Nat)
    (t : Tree)
    (result : Except Quantity.Fault Visit) :
    ofVisit (i + d) t result = (ofVisit i t result).shift d := by
  cases result with
  | error f => rfl
  | ok v =>
      cases hRoot : v.root? <;>
        simp [ofVisit, shift, hRoot, Function.comp_def]

theorem append_assoc (a b c : Run) :
    (a.append b).append c = a.append (b.append c) := by
  simp [append]

end Run

------------------------------------------------------------
-- Runs
------------------------------------------------------------

namespace Recipe

variable {r : Recipe} {m : Manifest}

/- A run lists what comes of each document under its position. -/
theorem describes_runFrom
    (hForm : r.WellFormed)
    (hKeys : ∀ t ∈ m, t.UniqueKeys)
    (first : Nat) :
    (r.runFrom first m).Describes r first m := by
  induction m generalizing first with
  | nil => exact Run.describes_empty
  | cons t m ih =>
      rw [List.forall_mem_cons] at hKeys
      have hHead :
          (Run.ofVisit first t (r.visit t)).Describes r first [t] := by
        cases hVisit : r.visit t with
        | error f => exact Run.describes_error hVisit
        | ok v =>
            exact Run.describes_ok hVisit
              (truthful_visit hForm hKeys.1 hVisit)
      exact hHead.append (ih hKeys.2 (first + 1))

/- The documents behind a run are those after the recipe. -/
theorem documents_runFrom
    (r : Recipe)
    (first : Nat)
    (m : Manifest) :
    (r.runFrom first m).documents = m.map r.after := by
  induction m generalizing first with
  | nil => rfl
  | cons t m ih =>
      have hHead :
          (Run.ofVisit first t (r.visit t)).documents =
            [r.after t] := by
        unfold after
        cases r.visit t <;> rfl
      rw [runFrom, Run.append, hHead, ih]
      rfl

/- The findings of a run are those about each document, in order. -/
theorem findings_runFrom
    (r : Recipe)
    (first : Nat)
    (m : Manifest) :
    (r.runFrom first m).findings =
      (m.zipIdx first).flatMap fun (t, i) =>
        (r.findingsIn t).map fun f => (i, f) := by
  induction m generalizing first with
  | nil => rfl
  | cons t m ih =>
      have hHead :
          (Run.ofVisit first t (r.visit t)).findings =
            (r.findingsIn t).map fun f => (first, f) := by
        unfold findingsIn
        cases r.visit t <;> rfl
      rw [runFrom, Run.append, hHead, ih, List.zipIdx_cons,
        List.flatMap_cons]

/- The faults of a run are those of each document, in order. -/
theorem faults_runFrom
    (r : Recipe)
    (first : Nat)
    (m : Manifest) :
    (r.runFrom first m).faults =
      (m.zipIdx first).filterMap fun (t, i) =>
        (r.faultIn? t).map fun f => (i, f) := by
  induction m generalizing first with
  | nil => rfl
  | cons t m ih =>
      have hHead :
          (Run.ofVisit first t (r.visit t)).faults =
            ((r.faultIn? t).map fun f => (first, f)).toList := by
        unfold faultIn?
        cases r.visit t <;> rfl
      rw [runFrom, Run.append, List.zipIdx_cons,
        List.filterMap_cons]
      simp only [hHead, ih]
      cases r.faultIn? t <;> rfl

/- A run succeeds when each of its visits does. -/
theorem isOk_run_iff
    (r : Recipe)
    (m : Manifest) :
    (r.run m).isOk = true ↔ ∀ t ∈ m, ∃ v, r.visit t = .ok v := by
  rw [Run.isOk, List.isEmpty_iff, run, faults_runFrom,
    List.filterMap_eq_nil_iff]
  simp only [Option.map_eq_none_iff, faultIn?_eq_none_iff]
  constructor
  · intro hAll t hMember
    rcases List.mem_iff_getElem?.mp hMember with ⟨i, hAt⟩
    exact hAll (t, i) (List.mem_zipIdx_iff_getElem?.mpr hAt)
  · intro hAll e hMember
    exact hAll e.1
      (List.mem_of_getElem? (List.mem_zipIdx_iff_getElem?.mp hMember))

/- The run of joined manifests consists of the runs of both. -/
theorem runFrom_append
    (r : Recipe)
    (first : Nat)
    (m n : Manifest) :
    r.runFrom first (m ++ n) =
      (r.runFrom first m).append
        (r.runFrom (first + m.length) n) := by
  induction m generalizing first with
  | nil => rfl
  | cons t m ih =>
      rw [List.cons_append, runFrom, runFrom, ih,
        Run.append_assoc, List.length_cons, Nat.add_assoc,
        Nat.add_comm 1]

/- Documents at later positions are visited alike. -/
theorem runFrom_shift
    (r : Recipe)
    (first d : Nat)
    (m : Manifest) :
    r.runFrom (first + d) m = (r.runFrom first m).shift d := by
  induction m generalizing first with
  | nil => rfl
  | cons t m ih =>
      have hNext : first + d + 1 = first + 1 + d := by omega
      rw [runFrom, runFrom, hNext, ih, Run.ofVisit_shift,
        Run.shift_append]

end Recipe

/-
  A run is exact.  It has a document for each of the manifest,
  in the same order, and lists as changed those which differ,
  in increasing order.  Faults are listed for the documents
  whose visits fail, and these stay as they were and have no
  findings.
-/
structure Run.Exact
    (r : Recipe)
    (m : Manifest)
    (a : Run) : Prop where
  length : a.documents.length = m.length
  document : ∀ (i : Nat) (t : Tree), m[i]? = some t →
    a.documents[i]? = some (r.after t)
  changed : ∀ i : Nat, i ∈ a.changed ↔ a.documents[i]? ≠ m[i]?
  ordered : a.changed.Pairwise (· < ·)
  faults : ∀ i f, (i, f) ∈ a.faults ↔
    ∃ t : Tree, m[i]? = some t ∧ r.visit t = .error f
  findings : ∀ i f, (i, f) ∈ a.findings ↔
    ∃ (t : Tree) (v : Visit), m[i]? = some t ∧ r.visit t = .ok v ∧
      f ∈ v.findings.entries
  failed : ∀ i f, (i, f) ∈ a.faults →
    a.documents[i]? = m[i]? ∧ i ∉ a.changed ∧
      ∀ g, (i, g) ∉ a.findings

/- A run that describes a manifest from its beginning is exact. -/
theorem Run.Describes.exact
    {r : Recipe}
    {m : Manifest}
    {a : Run}
    (hRun : a.Describes r 0 m) :
    a.Exact r m := by
  have hDocument : ∀ i : Nat, a.documents[i]? = m[i]?.map r.after := by
    intro i
    rw [hRun.documents, List.getElem?_map]
  have hChanged : ∀ i : Nat, i ∈ a.changed ↔
      a.documents[i]? ≠ m[i]? := by
    intro i
    rw [hRun.changed, hDocument]
    simp only [Manifest.at_zero_iff]
    cases m[i]? <;> simp
  have hFaults : ∀ i f, (i, f) ∈ a.faults ↔
      ∃ t : Tree, m[i]? = some t ∧ r.visit t = .error f := by
    intro i f
    rw [hRun.faults]
    simp only [Manifest.at_zero_iff]
  have hFindings : ∀ i f, (i, f) ∈ a.findings ↔
      ∃ (t : Tree) (v : Visit), m[i]? = some t ∧
        r.visit t = .ok v ∧ f ∈ v.findings.entries := by
    intro i f
    rw [hRun.findings]
    simp only [Manifest.at_zero_iff]
  refine ⟨?_, ?_, hChanged, hRun.ordered, hFaults, hFindings, ?_⟩
  · rw [hRun.documents, List.length_map]
  · intro i t hAt
    rw [hDocument, hAt]
    rfl
  · intro i f hMember
    rcases (hFaults i f).mp hMember with ⟨t, hAt, hVisit⟩
    have hKept : a.documents[i]? = m[i]? := by
      rw [hDocument, hAt, Option.map_some, Recipe.after, hVisit]
    refine ⟨hKept, ?_, ?_⟩
    · rw [hChanged]
      exact fun hOther => hOther hKept
    · intro g hFound
      rcases (hFindings i g).mp hFound with
        ⟨t', v, hAt', hVisit', _⟩
      rw [hAt, Option.some.injEq] at hAt'
      rw [← hAt', hVisit] at hVisit'
      cases hVisit'

/-
  The run of any recipe that can be built is exact, and the run
  of joined manifests consists of the runs of both, the second
  one's positions shifted.
-/
theorem Recipe.run_exact
    (o : Options)
    (r : Recipe)
    (m : Manifest)
    (hBuild : o.build = .ok r)
    (hKeys : ∀ t ∈ m, t.UniqueKeys) :
    (r.run m).Exact r m ∧
    ∀ n, r.run (m ++ n) =
      (r.run m).append ((r.run n).shift m.length) := by
  have hForm := wellFormed_of_build hBuild
  refine ⟨(describes_runFrom hForm hKeys 0).exact, ?_⟩
  intro n
  unfold run
  rw [runFrom_append, runFrom_shift]

/-
  Limits of memory in three documents: one is lowered, one
  cannot be read, and one is within the limit.
-/
theorem Recipe.run_exact_mixed :
    let o : QuantityOptions := ⟨.limits, .memory, "64Mi"⟩
    let limit : Quantity := ⟨67108864000, .mebi⟩
    let r : Recipe :=
      .capQuantity ⟨.limits, .memory, "64Mi", limit⟩
    let pod (text : String) : Tree :=
      .mapping [("kind", .string "Pod"),
        ("spec", .mapping [("containers", .sequence [.mapping
          [("resources", .mapping [("limits",
            .mapping [("memory", .string text)])])]])])]
    let m : Manifest := [pod "128Mi", pod "1.5Gi", pod "1Mi"]
    Options.build (.capQuantity o) = .ok r ∧
    (∀ t ∈ m, t.UniqueKeys) ∧
    r.run m = ⟨[pod "64Mi", pod "1.5Gi", pod "1Mi"], [], [0],
      [(1, ⟨"1.5Gi", .fractional⟩)]⟩ ∧
    (r.run m).Exact r m ∧
    ∀ n, r.run (m ++ n) = (r.run m).append ((r.run n).shift 3) := by
  intro o limit r pod m
  have hLimit : Quantity.read o.limit = .ok limit :=
    eq_ok_of_toOption (by decide +kernel)
  have hBuild : Options.build (.capQuantity o) = .ok r :=
    QuantityLimit.build_eq_ok_iff.1.mpr ⟨limit, hLimit, rfl⟩
  have hKeys : ∀ t ∈ m, t.UniqueKeys := by decide +kernel
  have hRun : r.run m = ⟨[pod "64Mi", pod "1.5Gi", pod "1Mi"], [],
      [0], [(1, ⟨"1.5Gi", .fractional⟩)]⟩ := by
    decide +kernel
  have hExact := run_exact (.capQuantity o) r m hBuild hKeys
  exact ⟨hBuild, hKeys, hRun, hExact.1, hExact.2⟩

end ManifestRecipes
