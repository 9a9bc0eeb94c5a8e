import ManifestRecipes.Proofs.Growth

/-
  What a merge says that it has added.

  Targets may lead nowhere, be repeated or lie within one
  another, and one may lead to an entry that another one has
  added.  Whatever they are, the tree grows and no more than
  that, and the additions that are listed are the keys that
  its mappings have gained.  Beside these there are additions
  to mappings that came with the fragment themselves.

  Key definitions include:
    * `Tree.HasKey`
    * `Tree.GainsKey`
    * `Merge.Accounts`

  Main declarations:
    * `Tree.GrowsTo.exists_lookup?`
    * `Merge.Accounts.trans`
    * `Merge.accounts_into_of_found`
    * `Merge.hasKey_into_of_marked`
    * `Merge.into_accounts`
-/

namespace ManifestRecipes

------------------------------------------------------------
-- Nodes of Grown Trees
------------------------------------------------------------

namespace Mapping

variable {α : Type} {m : Mapping α} {k : String} {v : α}

/- The value of a key stands at the position of the key. -/
theorem exists_position?_of_get? (hGet : get? k m = some v) :
    ∃ i, position? k m = some i ∧ m[i]? = some (k, v) := by
  cases hPosition : position? k m with
  | none =>
      rw [position?_eq_none_iff, ← get?_eq_none_iff, hGet]
        at hPosition
      cases hPosition
  | some i =>
      obtain ⟨u, hGet', hEntry⟩ := get?_of_position? hPosition
      rw [hGet, Option.some.injEq] at hGet'
      exact ⟨i, rfl, hGet' ▸ hEntry⟩

end Mapping

namespace Tree

variable {t u n : Tree} {p : Path} {k : String}

/- A mapping stands at a path and has a key. -/
def HasKey (t : Tree) (p : Path) (k : String) : Prop :=
  ∃ es, t.lookup? p = some (.mapping es) ∧ k ∈ Mapping.keys es

/- A mapping of a tree has a key in another one only. -/
def GainsKey (t u : Tree) (p : Path) (k : String) : Prop :=
  ∃ es, t.lookup? p = some (.mapping es) ∧
    k ∉ Mapping.keys es ∧ u.HasKey p k

namespace GrowsTo

/- A step that leads to a node leads to it after it has grown. -/
theorem exists_child?
    {e : Path.Element}
    (hGrows : t.GrowsTo u)
    (hChild : t.child? e = some n) :
    ∃ n', u.child? e = some n' ∧ n.GrowsTo n' := by
  rcases child?_eq_some_iff.mp hChild with
    ⟨xs, i, rfl, rfl, hItem⟩ | ⟨es, k, rfl, rfl, hGet⟩
  · obtain ⟨ys, n', rfl, hItem', hSame⟩ := hGrows.exists_item hItem
    exact ⟨n', hItem', hSame⟩
  · obtain ⟨i, hPosition, hEntry⟩ :=
      Mapping.exists_position?_of_get? hGet
    obtain ⟨fs, n', rfl, hKeys, hEntry', hSame⟩ :=
      hGrows.exists_entry hEntry
    obtain ⟨w, hGet', hEntry''⟩ := Mapping.get?_of_position?
      (Mapping.position?_of_prefix hKeys hPosition)
    rw [hEntry', Option.some.injEq, Prod.mk.injEq] at hEntry''
    exact ⟨n', hEntry''.2 ▸ hGet', hSame⟩

/- Every node is found again after it has grown. -/
theorem exists_lookup?
    (hGrows : t.GrowsTo u)
    (hNode : t.lookup? p = some n) :
    ∃ n', u.lookup? p = some n' ∧ n.GrowsTo n' := by
  induction hNode using lookupInduction generalizing u with
  | here => exact ⟨u, lookup?_nil u, hGrows⟩
  | step hChild _ _ ih =>
      obtain ⟨c', hChild', hGrown⟩ := hGrows.exists_child? hChild
      rw [lookup?_cons, hChild']
      exact ih hGrown

/- A mapping is found again as one with more keys. -/
theorem exists_lookup?_mapping
    {es : Mapping Tree}
    (hGrows : t.GrowsTo u)
    (hNode : t.lookup? p = some (.mapping es)) :
    ∃ fs, u.lookup? p = some (.mapping fs) ∧
      Mapping.keys es <+: Mapping.keys fs := by
  obtain ⟨n, hNode', hGrown⟩ := hGrows.exists_lookup? hNode
  cases hGrown with
  | @mapping _ fs hKeys _ => exact ⟨fs, hNode', hKeys⟩

theorem hasKey
    (hGrows : t.GrowsTo u)
    (hKey : t.HasKey p k) :
    u.HasKey p k := by
  rcases hKey with ⟨es, hNode, hMember⟩
  obtain ⟨fs, hNode', hKeys⟩ := hGrows.exists_lookup?_mapping hNode
  exact ⟨fs, hNode', hKeys.subset hMember⟩

end GrowsTo

end Tree

namespace Merge

variable {fragment : Mapping Tree} {t : Tree} {m n : Merge}

------------------------------------------------------------
-- Accounts
------------------------------------------------------------

/- A merge gives account of what it has made of a tree. -/
structure Accounts (t : Tree) (m : Merge) : Prop where
  /- The tree has grown, and no more than that. -/
  grows : t.GrowsTo m.tree
  /- Keys that are listed are there, and have not been before. -/
  added : ∀ a ∈ m.additions,
    m.tree.HasKey a.path a.key ∧ ¬ t.HasKey a.path a.key
  /- None is listed twice. -/
  nodup : m.additions.Nodup
  /- The keys that mappings of the tree have gained are listed. -/
  gained : ∀ p k, t.GainsKey m.tree p k → ⟨p, k⟩ ∈ m.additions
  /- Something is listed exactly when the tree is another one. -/
  changed : m.changed = true ↔ m.tree ≠ t

theorem changed_iff : m.changed = true ↔ m.additions ≠ [] := by
  simp [changed]

/-
  Where what is listed is new, and a tree without additions is
  the same, additions tell whether it is another tree.
-/
theorem changed_iff_ne
    (hAdded : ∀ a ∈ m.additions,
      m.tree.HasKey a.path a.key ∧ ¬ t.HasKey a.path a.key)
    (hKept : m.additions = [] → m.tree = t) :
    m.changed = true ↔ m.tree ≠ t := by
  rw [changed_iff]
  constructor
  · intro hSome hSame
    obtain ⟨a, hMember⟩ := List.exists_mem_of_ne_nil _ hSome
    obtain ⟨hPresent, hAbsent⟩ := hAdded a hMember
    rw [hSame] at hPresent
    exact hAbsent hPresent
  · intro hOther hNone
    exact hOther (hKept hNone)

namespace Accounts

theorem tree_eq
    (hAccounts : Accounts t m)
    (hNone : m.additions = []) :
    m.tree = t := by
  by_contra hOther
  exact changed_iff.mp (hAccounts.changed.mpr hOther) hNone

/- Nothing is done to a tree, and nothing listed. -/
theorem nothing (t : Tree) : Accounts t ⟨t, []⟩ where
  grows := .refl t
  added := List.forall_mem_nil _
  nodup := List.nodup_nil
  gained := by
    rintro p k ⟨es, hNode, hAbsent, fs, hNode', hPresent⟩
    rw [hNode, Option.some.injEq, Tree.mapping.injEq] at hNode'
    exact absurd (hNode' ▸ hPresent) hAbsent
  changed := changed_iff_ne (List.forall_mem_nil _) fun _ => rfl

/- Two merges, one after the other, give account together. -/
theorem trans
    (hFirst : Accounts t m)
    (hSecond : Accounts m.tree n) :
    Accounts t ⟨n.tree, m.additions ++ n.additions⟩ := by
  have hAdded : ∀ a ∈ m.additions ++ n.additions,
      n.tree.HasKey a.path a.key ∧ ¬ t.HasKey a.path a.key := by
    intro a hMember
    rcases List.mem_append.mp hMember with hEarly | hLate
    · obtain ⟨hPresent, hAbsent⟩ := hFirst.added a hEarly
      exact ⟨hSecond.grows.hasKey hPresent, hAbsent⟩
    · obtain ⟨hPresent, hAbsent⟩ := hSecond.added a hLate
      exact ⟨hPresent, fun hOld => hAbsent (hFirst.grows.hasKey hOld)⟩
  refine ⟨hFirst.grows.trans hSecond.grows, hAdded, ?_, ?_,
    changed_iff_ne hAdded ?_⟩
  · refine List.nodup_append.mpr
      ⟨hFirst.nodup, hSecond.nodup, ?_⟩
    -- What the first has added is there when the second begins.
    rintro a hEarly _ hLate rfl
    exact (hSecond.added a hLate).2 (hFirst.added a hEarly).1
  · rintro p k ⟨es, hNode, hAbsent, hPresent⟩
    obtain ⟨fs, hBetween, _⟩ :=
      hFirst.grows.exists_lookup?_mapping hNode
    rw [List.mem_append]
    by_cases hEarly : k ∈ Mapping.keys fs
    · exact Or.inl (hFirst.gained p k
        ⟨es, hNode, hAbsent, fs, hBetween, hEarly⟩)
    · exact Or.inr (hSecond.gained p k
        ⟨fs, hBetween, hEarly, hPresent⟩)
  · intro hNone
    rw [List.append_eq_nil_iff] at hNone
    exact (hSecond.tree_eq hNone.2).trans (hFirst.tree_eq hNone.1)

end Accounts

------------------------------------------------------------
-- Targets That Lead to Nodes
------------------------------------------------------------

section Found

variable {targets : List Path} {p : Path} {k : String}
variable {es : Mapping Tree}

/- A merged mapping has its keys and those that it lacked if it is marked. -/
theorem hasKey_into_iff
    (hFragment : (Mapping.keys fragment).Nodup)
    (hTargets : ∀ p ∈ targets, (t.lookup? p).isSome)
    (hNode : t.lookup? p = some (.mapping es)) :
    (into fragment t targets).tree.HasKey p k ↔
      k ∈ Mapping.keys es ∨
        marked targets p = true ∧
          k ∈ Mapping.keys (lacking fragment es) := by
  have hMerged := Tree.lookup?_patched
    (stamping fragment (marked targets)) hNode
  rw [← into_tree hFragment hTargets, Tree.patched] at hMerged
  unfold Tree.HasKey
  rw [hMerged]
  cases hMarked : marked targets p <;> simp [stamping, hMarked]

/- Targets that all lead to nodes are accounted for. -/
theorem accounts_into_of_found
    (hFragment : (Mapping.keys fragment).Nodup)
    (hTargets : ∀ p ∈ targets, (t.lookup? p).isSome) :
    Accounts t (into fragment t targets) := by
  have hMember : ∀ p k, ⟨p, k⟩ ∈ (into fragment t targets).additions ↔
      ∃ es, t.lookup? p = some (.mapping es) ∧
        marked targets p = true ∧
          k ∈ Mapping.keys (lacking fragment es) := by
    intro p k
    rw [mem_into_additions hFragment hTargets, stamped_iff_marked]
    constructor
    · rintro ⟨⟨_, hMarked⟩, es, hNode, hKey⟩
      exact ⟨es, hNode, hMarked, hKey⟩
    · rintro ⟨es, hNode, hMarked, hKey⟩
      exact ⟨⟨⟨es, hNode⟩, hMarked⟩, es, hNode, hKey⟩
  have hAdded : ∀ a ∈ (into fragment t targets).additions,
      (into fragment t targets).tree.HasKey a.path a.key ∧
        ¬ t.HasKey a.path a.key := by
    rintro ⟨p, k⟩ hListed
    obtain ⟨es, hNode, hMarked, hKey⟩ := (hMember p k).mp hListed
    refine ⟨(hasKey_into_iff hFragment hTargets hNode).mpr
      (Or.inr ⟨hMarked, hKey⟩), ?_⟩
    rintro ⟨fs, hNode', hOld⟩
    rw [hNode, Option.some.injEq, Tree.mapping.injEq] at hNode'
    obtain ⟨v, hEntry⟩ := Mapping.mem_keys_iff.mp hKey
    exact (mem_lacking_iff.mp hEntry).2 (hNode' ▸ hOld)
  refine ⟨growsTo_into fragment t targets, hAdded,
    nodup_into_additions hFragment hTargets, ?_,
    changed_iff_ne hAdded ?_⟩
  · rintro p k ⟨es, hNode, hAbsent, hPresent⟩
    rcases (hasKey_into_iff hFragment hTargets hNode).mp hPresent
      with hOld | ⟨hMarked, hKey⟩
    · exact absurd hOld hAbsent
    · exact (hMember p k).mpr ⟨es, hNode, hMarked, hKey⟩
  · intro hNone
    rw [into_tree hFragment hTargets]
    apply Tree.patched_eq_self
    refine ⟨fun _ _ _ => rfl, ?_⟩
    intro p es hNode
    by_contra hGains
    have hMarked : marked targets p = true := by
      by_contra hUnmarked
      exact hGains (if_neg hUnmarked)
    have hLacking : lacking fragment es ≠ [] := by
      intro hComplete
      exact hGains ((if_pos hMarked).trans hComplete)
    obtain ⟨⟨k, v⟩, hEntry⟩ := List.exists_mem_of_ne_nil _ hLacking
    have hListed := (hMember p k).mpr ⟨es, hNode, hMarked,
      Mapping.mem_keys_iff.mpr ⟨v, hEntry⟩⟩
    rw [hNone] at hListed
    cases hListed

end Found

------------------------------------------------------------
-- Any Targets
------------------------------------------------------------

theorem into_singleton (t : Tree) (target : Path) :
    into fragment t [target] = intoTarget fragment t target := by
  simp [into]

/- A single target is accounted for, wherever it leads. -/
theorem accounts_intoTarget
    (hFragment : (Mapping.keys fragment).Nodup)
    (t : Tree)
    (target : Path) :
    Accounts t (intoTarget fragment t target) := by
  cases hNode : t.lookup? target with
  | none =>
      have hNothing : intoTarget fragment t target = ⟨t, []⟩ := by
        rw [intoTarget, hNode]
      rw [hNothing]
      exact .nothing t
  | some n =>
      rw [← into_singleton]
      apply accounts_into_of_found hFragment
      rw [List.forall_mem_singleton, hNode]
      rfl

/- A mapping that a target marks has the keys of the fragment. -/
theorem hasKey_intoTarget
    {target p : Path}
    {k : String}
    {es : Mapping Tree}
    (hFragment : (Mapping.keys fragment).Nodup)
    (hNode : t.lookup? p = some (.mapping es))
    (hMarks : marks target p = true)
    (hKey : k ∈ Mapping.keys fragment) :
    (intoTarget fragment t target).tree.HasKey p k := by
  have hTarget : (t.lookup? target).isSome := by
    rcases marks_iff.mp hMarks with rfl | ⟨i, rfl⟩
    · rw [hNode]
      rfl
    · rcases lookup?_index hNode with ⟨xs, hSequence, _⟩
      rw [hSequence]
      rfl
  rw [← into_singleton, hasKey_into_iff hFragment
    (List.forall_mem_singleton.mpr hTarget) hNode]
  by_cases hOld : k ∈ Mapping.keys es
  · exact Or.inl hOld
  · obtain ⟨v, hEntry⟩ := Mapping.mem_keys_iff.mp hKey
    refine Or.inr ⟨by simpa [marked] using hMarks, ?_⟩
    exact Mapping.mem_keys_iff.mpr
      ⟨v, mem_lacking_iff.mpr ⟨hEntry, hOld⟩⟩

/- So has every one that is marked, whatever came before. -/
theorem hasKey_into_of_marked
    {targets : List Path}
    {p : Path}
    {k : String}
    {es : Mapping Tree}
    (hFragment : (Mapping.keys fragment).Nodup)
    (hNode : t.lookup? p = some (.mapping es))
    (hMarked : marked targets p = true)
    (hKey : k ∈ Mapping.keys fragment) :
    (into fragment t targets).tree.HasKey p k := by
  induction targets generalizing t es with
  | nil => cases hMarked
  | cons target targets ih =>
      have hGrows := growsTo_intoTarget fragment target t
      rw [marked, List.any_cons, Bool.or_eq_true] at hMarked
      rcases hMarked with hFirst | hLater
      · exact (growsTo_into fragment _ targets).hasKey
          (hasKey_intoTarget hFragment hNode hFirst hKey)
      · obtain ⟨fs, hNode', _⟩ := hGrows.exists_lookup?_mapping hNode
        exact ih hNode' hLater

/-
  Whatever the targets are, and whether they lead anywhere, the
  tree grows and the merge gives account of it.  The mappings
  to which they lead at once all get the keys of the fragment.
-/
theorem into_accounts
    (fragment : Mapping Tree)
    (t : Tree)
    (targets : List Path)
    (hFragment : (Mapping.keys fragment).Nodup) :
    Accounts t (into fragment t targets) ∧
      ∀ p k, Stamped t targets p → k ∈ Mapping.keys fragment →
        (into fragment t targets).tree.HasKey p k := by
  constructor
  · induction targets generalizing t with
    | nil => exact .nothing t
    | cons target targets ih =>
        exact (accounts_intoTarget hFragment t target).trans (ih _)
  · intro p k hStamped hKey
    rcases stamped_iff_marked.mp hStamped with
      ⟨⟨es, hNode⟩, hMarked⟩
    exact hasKey_into_of_marked hFragment hNode hMarked hKey

/-
  The second target leads nowhere before the first has added an
  entry; it is repeated, and another one leads nowhere at all.
-/
theorem into_accounts_later :
    let fragment : Mapping Tree :=
      [("spec", .mapping []), ("tier", .string "web")]
    let t : Tree :=
      .mapping [("items", .sequence [.mapping [("tier", .null)]])]
    let targets : List Path :=
      [[], [.field "spec"], [.field "none"], [.field "items"],
        [.field "spec"]]
    (Mapping.keys fragment).Nodup ∧
    t.lookup? [.field "spec"] = none ∧
    Accounts t (into fragment t targets) ∧
    (into fragment t targets).tree.HasKey [] "tier" ∧
    (into fragment t targets).additions =
      [⟨[], "spec"⟩, ⟨[], "tier"⟩,
        ⟨[.field "spec"], "spec"⟩, ⟨[.field "spec"], "tier"⟩,
        ⟨[.field "items", .index 0], "spec"⟩] := by
  intro fragment t targets
  have hFragment : (Mapping.keys fragment).Nodup := by decide
  obtain ⟨hAccounts, hKeys⟩ :=
    into_accounts fragment t targets hFragment
  have hKey := hKeys [] "tier"
    ⟨⟨_, rfl⟩, Or.inl List.mem_cons_self⟩ (by decide)
  exact ⟨hFragment, rfl, hAccounts, hKey, by decide⟩

end Merge

end ManifestRecipes
