import ManifestRecipes.Proofs.Document
import ManifestRecipes.Proofs.Findings
import ManifestRecipes.Proofs.Spelling
import ManifestRecipes.Recipe.Options

/-
  Which ingresses are found to be open to plain requests.

  An ingress counts as limited to TLS when an entry of its TLS
  section has a list of hosts under its key, whether or not any
  host is in it.

  Key definitions include:
    * `Ingress.TlsEntry`
    * `Ingress.ListsHosts`
    * `Ingress.ConfiguresHost`
    * `Ingress.AllowsHttp`

  Main declarations:
    * `Ingress.annotation?_eq`
    * `Ingress.hasTls_iff`
    * `Ingress.reports_missing_tls`
-/

namespace ManifestRecipes

namespace Ingress

variable {t : Tree}

------------------------------------------------------------
-- Hosts
------------------------------------------------------------

/- The entries of the TLS section. -/
def TlsEntry (t : Tree) (n : Tree) : Prop :=
  ∃ i, t.lookup? [.field "spec", .field "tls", .index i] = some n

/- Something stands where hosts are to be listed. -/
def ListsHosts (n : Tree) : Prop :=
  ∃ hosts, n.get? "hosts" = some hosts

/- A host is listed, that is, an item that is not null. -/
def ConfiguresHost (n : Tree) : Prop :=
  ∃ xs x, n.get? "hosts" = some (.sequence xs) ∧ x ∈ xs ∧
    x.isNull = false

theorem ConfiguresHost.lists
    {n : Tree}
    (hConfigures : ConfiguresHost n) :
    ListsHosts n := by
  rcases hConfigures with ⟨xs, _, hHosts, _⟩
  exact ⟨.sequence xs, hHosts⟩

/- Hosts are listed in the entries of the TLS section. -/
theorem spells_tlsHostPlaces_iff {p : Path} :
    Expression.Spells tlsHostPlaces.segments p ↔
      ∃ i, p = [.field "spec", .field "tls", .index i] ++
        [.field "hosts"] := by
  constructor
  · intro hSpells
    cases hSpells with
    | root hSpells => cases hSpells with
      | field _ hSpells => cases hSpells with
        | field _ hSpells => cases hSpells with
          | everyItem i hSpells => cases hSpells with
            | field _ hSpells =>
                cases hSpells
                exact ⟨i, rfl⟩
  · intro hPlaced
    rcases hPlaced with ⟨i, rfl⟩
    exact .root (.field _ (.field _ (.everyItem i (.field _ .nil))))

/- TLS is taken to be configured when an entry lists hosts. -/
theorem hasTls_iff (hKeys : t.UniqueKeys) :
    hasTls t = true ↔ ∃ n, TlsEntry t n ∧ ListsHosts n := by
  have hRooted : tlsHostPlaces.Rooted := ⟨_, rfl, by decide⟩
  have hSome : hasTls t = true ↔
      ∃ p, p ∈ (tlsHostPlaces.select t).map Cursor.path := by
    rw [hasTls, Bool.not_eq_true', List.isEmpty_eq_false_iff_exists_mem]
    simp
  rw [hSome]
  simp only [Expression.mem_select_path_iff hRooted hKeys,
    spells_tlsHostPlaces_iff, Option.isSome_iff_exists]
  constructor
  · intro hSelected
    rcases hSelected with ⟨_, ⟨hosts, hNode⟩, i, rfl⟩
    rw [Tree.lookup?_append, Option.bind_eq_some_iff] at hNode
    rcases hNode with ⟨n, hEntry, hHosts⟩
    rw [Tree.lookup?_singleton, ← Tree.get?_eq_child?] at hHosts
    exact ⟨n, ⟨i, hEntry⟩, hosts, hHosts⟩
  · intro hListed
    rcases hListed with ⟨n, ⟨i, hEntry⟩, hosts, hHosts⟩
    refine ⟨_, ⟨hosts, ?_⟩, i, rfl⟩
    rw [Tree.lookup?_append, hEntry, Option.bind_some,
      Tree.lookup?_singleton, ← Tree.get?_eq_child?]
    exact hHosts

------------------------------------------------------------
-- Annotations
------------------------------------------------------------

/- The place of the annotation that disallows plain requests. -/
def allowHttpPath : Path :=
  [.field "metadata", .field "annotations", .field allowHttp]

/- The annotation does not have the value that disallows plain requests. -/
def AllowsHttp (t : Tree) : Prop :=
  (t.lookup? allowHttpPath).bind Tree.text? ≠ some "false"

/- The annotations of a resource are the texts at their places. -/
theorem annotation?_eq
    (key : String)
    (hKeys : t.UniqueKeys) :
    (Resource.ofTree t).annotation? key =
      (t.lookup? [.field "metadata", .field "annotations",
        .field key]).bind Tree.text? := by
  have hTexts : ∀ m : Tree, m.UniqueKeys →
      Mapping.get? key m.texts =
        (m.lookup? [.field key]).bind Tree.text? := by
    intro m hUnique
    rw [Tree.lookup?_singleton, ← Tree.get?_eq_child?]
    cases m with
    | scalar s => rfl
    | sequence xs => rfl
    | mapping es =>
        exact Mapping.get?_filterMap Tree.text?
          (Tree.uniqueKeys_mapping_iff.mp hUnique).1
  change Mapping.get? key
    (((t.get? "metadata").getD .null).textsAt "annotations") = _
  rw [Tree.get?_eq_child?, Tree.lookup?_cons]
  cases hMetadata : t.child? (.field "metadata") with
  | none => rfl
  | some m =>
      rw [Option.getD_some, Tree.textsAt, Tree.get?_eq_child?,
        Option.bind_some, Tree.lookup?_cons]
      cases hAnnotations : m.child? (.field "annotations") with
      | none => rfl
      | some a =>
          exact hTexts a ((hKeys.child hMetadata).child hAnnotations)

------------------------------------------------------------
-- Findings
------------------------------------------------------------

theorem isIngress_iff :
    isIngress t = true ↔ t.textAt? "kind" = some "Ingress" := by
  exact Resource.isKind_ofTree_iff (by decide)

theorem disallowsHttp_eq_false_iff (hKeys : t.UniqueKeys) :
    disallowsHttp t = false ↔ AllowsHttp t := by
  rw [disallowsHttp, annotation?_eq allowHttp hKeys,
    decide_eq_false_iff_not]
  rfl

theorem entries_findUnprotected (hKind : isIngress t = true) :
    (findUnprotected t).findings.entries =
      (if hasTls t then [] else [⟨[], "missing TLS"⟩]) ++
        (if disallowsHttp t then []
          else [⟨[], "missing disallow http"⟩]) := by
  rw [findUnprotected, if_pos hKind]
  cases hasTls t <;> cases disallowsHttp t <;> rfl

/- What can be reported about an ingress, in order. -/
def reports : List Finding :=
  [⟨[], "missing TLS"⟩, ⟨[], "missing disallow http"⟩]

/-
  An ingress is reported to miss TLS when no entry of its TLS
  section lists hosts, and to miss that plain requests are
  disallowed when the annotation does not say so.
-/
theorem reports_missing_tls
    (t : Tree)
    (hKeys : t.UniqueKeys) :
    ∃ r v, Options.build .findUnprotectedIngress = .ok r ∧
      r.visit t = .ok v ∧ v.root? = none ∧
      (t.textAt? "kind" ≠ some "Ingress" → v.findings.entries = []) ∧
      (t.textAt? "kind" = some "Ingress" →
        v.findings.entries.Sublist reports ∧
        (⟨[], "missing TLS"⟩ ∈ v.findings.entries ↔
          ¬ ∃ n, TlsEntry t n ∧ ListsHosts n) ∧
        (⟨[], "missing disallow http"⟩ ∈ v.findings.entries ↔
          AllowsHttp t) ∧
        ((⟨[], "missing TLS"⟩ ∈ v.findings.entries ↔
            ¬ ∃ n, TlsEntry t n ∧ ConfiguresHost n) ↔
          ((∃ n, TlsEntry t n ∧ ListsHosts n) →
            ∃ n, TlsEntry t n ∧ ConfiguresHost n))) := by
  refine ⟨.findUnprotectedIngress, findUnprotected t, rfl, rfl, ?_,
    ?_, ?_⟩
  · unfold findUnprotected
    cases isIngress t <;> rfl
  · intro hOther
    rw [← isIngress_iff.ne] at hOther
    rw [findUnprotected, if_neg hOther]
    rfl
  · intro hKind
    have hEntries := entries_findUnprotected (isIngress_iff.mpr hKind)
    have hTls : ⟨[], "missing TLS"⟩ ∈
          (findUnprotected t).findings.entries ↔
        ¬ ∃ n, TlsEntry t n ∧ ListsHosts n := by
      rw [← hasTls_iff hKeys, hEntries]
      cases hasTls t <;> cases disallowsHttp t <;> simp
    have hHttp : ⟨[], "missing disallow http"⟩ ∈
          (findUnprotected t).findings.entries ↔ AllowsHttp t := by
      rw [← disallowsHttp_eq_false_iff hKeys, hEntries]
      cases hasTls t <;> cases disallowsHttp t <;> simp
    refine ⟨?_, hTls, hHttp, ?_⟩
    · rw [hEntries]
      cases hasTls t <;> cases disallowsHttp t <;> simp [reports]
    · have hLists : (∃ n, TlsEntry t n ∧ ConfiguresHost n) →
          ∃ n, TlsEntry t n ∧ ListsHosts n := by
        intro hConfigured
        rcases hConfigured with ⟨n, hEntry, hHost⟩
        exact ⟨n, hEntry, hHost.lists⟩
      rw [hTls, not_iff_not]
      exact ⟨Iff.mp, fun hBack => ⟨hBack, hLists⟩⟩

/- An ingress with a host under TLS that does not disallow plain requests. -/
theorem reports_missing_tls_host :
    let t : Tree :=
      .mapping [("kind", .string "Ingress"),
        ("spec", .mapping [("tls", .sequence [
          .mapping [("hosts", .sequence [.string "web.example"])]])])]
    t.UniqueKeys ∧ t.textAt? "kind" = some "Ingress" ∧
    (∃ n, TlsEntry t n ∧ ConfiguresHost n) ∧
    ∃ r v, Options.build .findUnprotectedIngress = .ok r ∧
      r.visit t = .ok v ∧ v.root? = none ∧
      (⟨[], "missing TLS"⟩ ∈ v.findings.entries ↔
        ¬ ∃ n, TlsEntry t n ∧ ConfiguresHost n) ∧
      (⟨[], "missing disallow http"⟩ ∈ v.findings.entries ↔
        AllowsHttp t) := by
  intro t
  have hKeys : t.UniqueKeys := by decide
  have hHost : ∃ n, TlsEntry t n ∧ ConfiguresHost n :=
    ⟨_, ⟨0, rfl⟩, _, .string "web.example", rfl, by simp, rfl⟩
  rcases reports_missing_tls t hKeys with
    ⟨r, v, hBuild, hVisit, hRoot, _, hIngress⟩
  rcases hIngress rfl with ⟨_, _, hHttp, hExact⟩
  exact ⟨hKeys, rfl, hHost, r, v, hBuild, hVisit, hRoot,
    hExact.mpr fun _ => hHost, hHttp⟩

/- An entry without any host passes for TLS. -/
theorem passes_over_empty_hosts :
    let t : Tree :=
      .mapping [("kind", .string "Ingress"),
        ("spec", .mapping [("tls", .sequence [
          .mapping [("hosts", .sequence [])]])])]
    t.UniqueKeys ∧ t.textAt? "kind" = some "Ingress" ∧
    (¬ ∃ n, TlsEntry t n ∧ ConfiguresHost n) ∧
    ∃ r v, Options.build .findUnprotectedIngress = .ok r ∧
      r.visit t = .ok v ∧
      v.findings.entries = [⟨[], "missing disallow http"⟩] := by
  intro t
  refine ⟨by decide, rfl, ?_, .findUnprotectedIngress, _, rfl, rfl,
    by decide⟩
  intro hConfigured
  rcases hConfigured with ⟨n, ⟨i, hEntry⟩, xs, x, hHosts, hHost, _⟩
  cases i with
  | zero =>
      cases hEntry
      cases hHosts
      cases hHost
  | succ i => cases hEntry

end Ingress

end ManifestRecipes
