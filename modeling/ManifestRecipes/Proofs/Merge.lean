import ManifestRecipes.Merge
import ManifestRecipes.Proofs.Patch
import Mathlib.Data.List.Nodup

/-
  What merging a fragment does to a tree.

  The targets are merged into one after the other, each into
  the tree that the ones before it have left.  All together
  they act as one patch of the tree they began with, in which
  every stamped mapping gains the entries that it lacks.

  Key definitions include:
    * `Merge.lacking`
    * `Merge.Stamped`
    * `Merge.stamping`

  Main declarations:
    * `Merge.intoMapping_eq`
    * `Merge.intoTarget_patched`
    * `Merge.into_patched_tree`
    * `Merge.mem_into_patched_additions`
    * `Merge.into_effect`
-/

namespace ManifestRecipes

namespace Merge

variable {fragment : Mapping Tree}

------------------------------------------------------------
-- Lacking Entries
------------------------------------------------------------

/- The entries of a fragment whose keys a mapping lacks. -/
def lacking (fragment es : Mapping Tree) : Mapping Tree :=
  fragment.filter fun e => !Mapping.contains e.1 es

theorem mem_lacking_iff
    {e : String × Tree}
    {es : Mapping Tree} :
    e ∈ lacking fragment es ↔
      e ∈ fragment ∧ e.1 ∉ Mapping.keys es := by
  simp [lacking, ← Mapping.contains_iff]

/- What is lacking depends on the keys only. -/
theorem lacking_congr
    {es fs : Mapping Tree}
    (hKeys : ∀ k, k ∈ Mapping.keys es ↔ k ∈ Mapping.keys fs) :
    lacking fragment es = lacking fragment fs := by
  apply List.filter_congr
  intro e _
  rw [Bool.eq_iff_iff, Bool.not_eq_true', Bool.not_eq_true',
    ← Bool.not_eq_true, ← Bool.not_eq_true,
    Mapping.contains_iff, Mapping.contains_iff, hKeys]

/-
  A mapping lacks nothing any more once it has been stamped.
  Other changes of its values do not matter.
-/
theorem lacking_stamped
    {es fs : Mapping Tree}
    (stamped : Bool)
    (hKeys : ∀ k, k ∈ Mapping.keys fs ↔ k ∈ Mapping.keys es) :
    lacking fragment
        (fs ++ if stamped then lacking fragment es else []) =
      if stamped then [] else lacking fragment es := by
  cases stamped with
  | false => simpa using lacking_congr hKeys
  | true =>
      simp only [if_true]
      rw [List.eq_nil_iff_forall_not_mem]
      intro e hMember
      rcases mem_lacking_iff.mp hMember with ⟨hEntry, hAbsent⟩
      rw [Mapping.keys_append, List.mem_append, not_or, hKeys]
        at hAbsent
      exact hAbsent.2 (Mapping.mem_keys_iff.mpr
        ⟨e.2, mem_lacking_iff.mpr ⟨hEntry, hAbsent.1⟩⟩)

theorem nodup_keys_lacking
    (es : Mapping Tree)
    (hFragment : (Mapping.keys fragment).Nodup) :
    (Mapping.keys (lacking fragment es)).Nodup := by
  exact (List.filter_sublist.map Prod.fst).nodup hFragment

/- A mapping gains exactly the entries that it lacks. -/
theorem intoMapping_eq
    (es : Mapping Tree)
    (hFragment : (Mapping.keys fragment).Nodup) :
    intoMapping es fragment =
      (es ++ lacking fragment es,
        Mapping.keys (lacking fragment es)) := by
  induction fragment generalizing es with
  | nil => simp [intoMapping, lacking]
  | cons e fragment ih =>
      rcases e with ⟨k, v⟩
      rw [Mapping.keys_cons, List.nodup_cons] at hFragment
      by_cases hKey : k ∈ Mapping.keys es
      · have hHead :
            lacking ((k, v) :: fragment) es =
              lacking fragment es := by
          simp [lacking, Mapping.contains_iff.mpr hKey]
        simp [intoMapping, Mapping.appendIfAbsent_eq, hKey,
          ih es hFragment.2, hHead]
      · have hHead :
            lacking ((k, v) :: fragment) es =
              (k, v) :: lacking fragment es := by
          simp [lacking, ← Bool.not_eq_true,
            Mapping.contains_iff, hKey]
        -- The new key is not one of the keys still to come.
        have hTail :
            lacking fragment (es ++ [(k, v)]) =
              lacking fragment es := by
          apply List.filter_congr
          intro e hEntry
          have hOther : e.1 ≠ k := by
            rintro rfl
            exact hFragment.1
              (Mapping.mem_keys_iff.mpr ⟨e.2, hEntry⟩)
          rw [Bool.eq_iff_iff]
          simp [← Bool.not_eq_true, Mapping.contains_iff, hOther]
        simp [intoMapping, Mapping.appendIfAbsent_eq, hKey,
          ih _ hFragment.2, hHead, hTail]

------------------------------------------------------------
-- Stamped Mappings
------------------------------------------------------------

/-
  A target marks the node it leads to and, in case it is a
  sequence, its items.
-/
def marks : Path → Path → Bool
  | [], [] => true
  | [], [.index _] => true
  | e :: target, f :: p => e = f && marks target p
  | _, _ => false

/- A path is marked by one of the targets. -/
def marked (targets : List Path) (p : Path) : Bool :=
  targets.any (marks · p)

/-
  The mapping at a path is a target or an item of a target
  sequence.
-/
def Stamped
    (t : Tree)
    (targets : List Path)
    (p : Path) : Prop :=
  (∃ es, t.lookup? p = some (.mapping es)) ∧
    (p ∈ targets ∨
      ∃ q ∈ targets, ∃ xs i,
        t.lookup? q = some (.sequence xs) ∧ p = q ++ [.index i])

/- The mappings at the paths of a set gain what they lack. -/
def stamping
    (fragment : Mapping Tree)
    (paths : Path → Bool) : Patch :=
  ⟨fun _ s => s,
    fun p es => if paths p then lacking fragment es else []⟩

@[simp] theorem marks_append (target p : Path) :
    marks target (target ++ p) = marks [] p := by
  induction target with
  | nil => rfl
  | cons e target ih => simp [marks, ih]

/- A target marks its own path and those of items. -/
theorem marks_iff {target p : Path} :
    marks target p = true ↔
      p = target ∨ ∃ i, p = target ++ [.index i] := by
  induction target generalizing p with
  | nil =>
      rcases p with _ | ⟨_ | i, _ | ⟨f, p⟩⟩ <;> simp [marks]
  | cons e target ih =>
      cases p with
      | nil => simp [marks]
      | cons f p =>
          simp only [marks, Bool.and_eq_true, decide_eq_true_eq,
            ih, List.cons_append, List.cons.injEq]
          constructor
          · rintro ⟨rfl, rfl | ⟨i, rfl⟩⟩
            · exact Or.inl ⟨rfl, rfl⟩
            · exact Or.inr ⟨i, rfl, rfl⟩
          · rintro (⟨rfl, rfl⟩ | ⟨i, rfl, rfl⟩)
            · exact ⟨rfl, Or.inl rfl⟩
            · exact ⟨rfl, Or.inr ⟨i, rfl⟩⟩

theorem marks_eq_false_outside
    {target p : Path}
    (hOutside : ¬ target <+: p) :
    marks target p = false := by
  rw [← Bool.not_eq_true, marks_iff]
  rintro (rfl | ⟨i, rfl⟩)
  · exact hOutside List.prefix_rfl
  · exact hOutside (List.prefix_append ..)

/- A step to an index leads down from a sequence. -/
theorem lookup?_index
    {t n : Tree}
    {p : Path}
    {i : Nat}
    (hItem : t.lookup? (p ++ [.index i]) = some n) :
    ∃ xs, t.lookup? p = some (.sequence xs) ∧
      xs[i]? = some n := by
  rw [Tree.lookup?_append, Option.bind_eq_some_iff] at hItem
  rcases hItem with ⟨m, hNode, hChild⟩
  rw [Tree.lookup?_singleton, Tree.child?_eq_some_iff] at hChild
  rcases hChild with
    ⟨xs, j, rfl, hIndex, hAt⟩ | ⟨es, k, rfl, hIndex, _⟩
  · cases hIndex
    exact ⟨xs, hNode, hAt⟩
  · cases hIndex

/- The stamped mappings are the marked ones. -/
theorem stamped_iff_marked
    {t : Tree}
    {targets : List Path}
    {p : Path} :
    Stamped t targets p ↔
      (∃ es, t.lookup? p = some (.mapping es)) ∧
        marked targets p = true := by
  apply and_congr_right
  rintro ⟨es, hNode⟩
  simp only [marked, List.any_eq_true, marks_iff]
  constructor
  · rintro (hTarget | ⟨q, hTarget, xs, i, _, rfl⟩)
    · exact ⟨p, hTarget, Or.inl rfl⟩
    · exact ⟨q, hTarget, Or.inr ⟨i, rfl⟩⟩
  · rintro ⟨q, hTarget, rfl | ⟨i, rfl⟩⟩
    · exact Or.inl hTarget
    · rcases lookup?_index hNode with ⟨xs, hSequence, _⟩
      exact Or.inr ⟨q, hTarget, xs, i, hSequence, rfl⟩

------------------------------------------------------------
-- Merging into One Node
------------------------------------------------------------

@[simp] theorem stamping_under
    (paths : Path → Bool)
    (p : Path) :
    (stamping fragment paths).under p =
      stamping fragment fun q => paths (p ++ q) := by
  rfl

/- The keys that a stamped node gains. -/
def gained
    (fragment : Mapping Tree)
    (stamped : Bool)
    (t : Tree) : List String :=
  match t with
  | .mapping es =>
      if stamped then []
      else Mapping.keys (lacking fragment es)
  | _ => []

/- A key is gained by a mapping that lacks it and is not stamped yet. -/
theorem mem_gained_iff
    {stamped : Bool}
    {t : Tree}
    {k : String} :
    k ∈ gained fragment stamped t ↔
      stamped = false ∧
        ∃ es, t = .mapping es ∧
          k ∈ Mapping.keys (lacking fragment es) := by
  cases t <;> cases stamped <;> simp [gained]

theorem nodup_gained
    (stamped : Bool)
    (t : Tree)
    (hFragment : (Mapping.keys fragment).Nodup) :
    (gained fragment stamped t).Nodup := by
  cases t with
  | scalar s => exact List.nodup_nil
  | sequence xs => exact List.nodup_nil
  | mapping es =>
      cases stamped with
      | true => exact List.nodup_nil
      | false => exact nodup_keys_lacking es hFragment

/- Additions to one mapping are told apart by their keys. -/
theorem nodup_map_addition
    (path : Path)
    {ks : List String}
    (hKeys : ks.Nodup) :
    (ks.map (Addition.mk path)).Nodup := by
  refine List.Nodup.map ?_ hKeys
  intro k l hSame
  exact congrArg Addition.key hSame

/-
  Merging into a patched item stamps it, unless the patch has
  stamped it before.
-/
theorem intoItem_patched
    (hFragment : (Mapping.keys fragment).Nodup)
    (path : Path)
    (paths : Path → Bool)
    (t : Tree) :
    intoItem fragment path (t.patched (stamping fragment paths)) =
      ⟨t.patched
          (stamping fragment fun q => paths q || q.isEmpty),
        (gained fragment (paths []) t).map (Addition.mk path)⟩ := by
  cases t with
  | scalar s => rfl
  | sequence xs =>
      have hItems :=
        Tree.patchedItems_congr
          (P := stamping fragment paths)
          (Q := stamping fragment fun q => paths q || q.isEmpty)
          (by simp) 0 xs
      simp [Tree.patched, intoItem, gained, hItems]
  | mapping es =>
      have hEntries :=
        Tree.patchedEntries_congr
          (P := stamping fragment paths)
          (Q := stamping fragment fun q => paths q || q.isEmpty)
          (by simp) es
      have hLacking :
          lacking fragment
              (Tree.patchedEntries (stamping fragment paths) es ++
                if paths [] then lacking fragment es else []) =
            if paths [] then [] else lacking fragment es :=
        lacking_stamped (paths []) (by simp)
      cases hStamped : paths [] <;>
        simp_all [Tree.patched, intoItem, intoMapping_eq, gained,
          stamping]

/- Merging into patched items stamps them. -/
theorem intoItems_patched_tree
    (hFragment : (Mapping.keys fragment).Nodup)
    (path : Path)
    (paths : Path → Bool)
    (i : Nat)
    (xs : List Tree) :
    (intoItems fragment path i
        (Tree.patchedItems (stamping fragment paths) i xs)).1 =
      Tree.patchedItems
        (stamping fragment fun q => paths q || marks [] q) i xs := by
  induction xs generalizing i with
  | nil => rfl
  | cons x xs ih =>
      have hMarks :
          ∀ q : Path, marks [] (.index i :: q) = q.isEmpty := by
        intro q
        cases q <;> rfl
      simp [Tree.patchedItems, intoItems, ih,
        intoItem_patched hFragment, hMarks]

/- What merging into patched items adds. -/
theorem mem_intoItems_patched_additions
    (hFragment : (Mapping.keys fragment).Nodup)
    {path : Path}
    {paths : Path → Bool}
    {i : Nat}
    {xs : List Tree}
    {a : Addition} :
    a ∈ (intoItems fragment path i
        (Tree.patchedItems (stamping fragment paths) i xs)).2 ↔
      ∃ j x, xs[j]? = some x ∧
        a.path = path ++ [.index (i + j)] ∧
          a.key ∈ gained fragment (paths [.index (i + j)]) x := by
  induction xs generalizing i with
  | nil => simp [Tree.patchedItems, intoItems]
  | cons x xs ih =>
      simp only [Tree.patchedItems, intoItems, stamping_under,
        intoItem_patched hFragment, List.mem_append,
        List.mem_map, ih, List.append_nil]
      constructor
      · rintro (⟨k, hKey, rfl⟩ | ⟨j, y, hItem, hPath, hKey⟩)
        · exact ⟨0, x, rfl, rfl, hKey⟩
        · have hNext : i + 1 + j = i + (j + 1) := by omega
          exact ⟨j + 1, y, hItem, hNext ▸ hPath, hNext ▸ hKey⟩
      · rintro ⟨j, y, hItem, hPath, hKey⟩
        cases j with
        | zero =>
            simp only [List.getElem?_cons_zero,
              Option.some.injEq] at hItem
            subst hItem
            exact Or.inl ⟨a.key, hKey, by
              cases a
              simp_all⟩
        | succ j =>
            have hNext : i + (j + 1) = i + 1 + j := by omega
            exact Or.inr
              ⟨j, y, hItem, hNext ▸ hPath, hNext ▸ hKey⟩

/- Merging into patched items adds nothing twice. -/
theorem nodup_intoItems_patched_additions
    (hFragment : (Mapping.keys fragment).Nodup)
    (path : Path)
    (paths : Path → Bool)
    (i : Nat)
    (xs : List Tree) :
    (intoItems fragment path i
        (Tree.patchedItems
          (stamping fragment paths) i xs)).2.Nodup := by
  induction xs generalizing i with
  | nil => simp [Tree.patchedItems, intoItems]
  | cons x xs ih =>
      simp only [Tree.patchedItems, intoItems, stamping_under,
        intoItem_patched hFragment, List.append_nil]
      refine List.nodup_append.mpr
        ⟨nodup_map_addition _ (nodup_gained _ x hFragment),
          ih (i + 1), ?_⟩
      rintro a hHere _ hLater rfl
      rcases List.mem_map.mp hHere with ⟨k, _, rfl⟩
      rcases (mem_intoItems_patched_additions hFragment).mp hLater
        with ⟨j, _, _, hPath, _⟩
      have hIndex : i = i + 1 + j := by simpa using hPath
      omega

/- Merging into a patched node stamps what a target there marks. -/
theorem intoNode_patched_tree
    (hFragment : (Mapping.keys fragment).Nodup)
    (path : Path)
    (paths : Path → Bool)
    (t : Tree) :
    (intoNode fragment path
        (t.patched (stamping fragment paths))).tree =
      t.patched
        (stamping fragment fun q => paths q || marks [] q) := by
  cases t with
  | scalar s => rfl
  | sequence xs =>
      simp [Tree.patched, intoNode,
        intoItems_patched_tree hFragment]
  | mapping es =>
      change (intoItem fragment path
        ((Tree.mapping es).patched (stamping fragment paths))).tree
          = _
      rw [intoItem_patched hFragment]
      have hEntries :=
        Tree.patchedEntries_congr
          (P := stamping fragment fun q => paths q || q.isEmpty)
          (Q := stamping fragment fun q => paths q || marks [] q)
          (by simp [marks]) es
      simp only [Tree.patched, hEntries]
      simp [stamping, marks]

/- What merging into a patched node adds. -/
theorem mem_intoNode_patched_additions
    (hFragment : (Mapping.keys fragment).Nodup)
    {path : Path}
    {paths : Path → Bool}
    {t : Tree}
    {a : Addition} :
    a ∈ (intoNode fragment path
        (t.patched (stamping fragment paths))).additions ↔
      ∃ q n, t.lookup? q = some n ∧ a.path = path ++ q ∧
        marks [] q = true ∧
          a.key ∈ gained fragment (paths q) n := by
  constructor
  · intro hMember
    cases t with
    | scalar s => simp [Tree.patched, intoNode] at hMember
    | sequence xs =>
        simp only [Tree.patched, intoNode] at hMember
        rcases (mem_intoItems_patched_additions hFragment).mp
          hMember with ⟨j, x, hItem, hPath, hKey⟩
        rw [Nat.zero_add] at hPath hKey
        exact ⟨[.index j], x, by simpa [Tree.child?] using hItem,
          hPath, rfl, hKey⟩
    | mapping es =>
        change a ∈ (intoItem fragment path
          ((Tree.mapping es).patched
            (stamping fragment paths))).additions at hMember
        rw [intoItem_patched hFragment, List.mem_map] at hMember
        rcases hMember with ⟨k, hKey, rfl⟩
        exact ⟨[], .mapping es, Tree.lookup?_nil _, by simp, rfl,
          hKey⟩
  · rintro ⟨q, n, hNode, hPath, hMarks, hKey⟩
    rcases a with ⟨p, k⟩
    rcases marks_iff.mp hMarks with rfl | ⟨i, rfl⟩
    · rw [Tree.lookup?_nil, Option.some.injEq] at hNode
      subst hNode
      rcases mem_gained_iff.mp hKey with ⟨_, es, rfl, _⟩
      change _ ∈ (intoItem fragment path
        ((Tree.mapping es).patched
          (stamping fragment paths))).additions
      rw [intoItem_patched hFragment, List.mem_map]
      exact ⟨k, hKey, by simp_all⟩
    · rcases lookup?_index hNode with ⟨xs, hSequence, hItem⟩
      rw [Tree.lookup?_nil, Option.some.injEq] at hSequence
      subst hSequence
      simp only [Tree.patched, intoNode]
      refine (mem_intoItems_patched_additions hFragment).mpr
        ⟨i, n, hItem, ?_⟩
      simpa using ⟨hPath, hKey⟩

/- Merging into a patched node adds nothing twice. -/
theorem nodup_intoNode_patched_additions
    (hFragment : (Mapping.keys fragment).Nodup)
    (path : Path)
    (paths : Path → Bool)
    (t : Tree) :
    (intoNode fragment path
        (t.patched
          (stamping fragment paths))).additions.Nodup := by
  cases t with
  | scalar s => exact List.nodup_nil
  | sequence xs =>
      exact nodup_intoItems_patched_additions hFragment path
        paths 0 xs
  | mapping es =>
      change (intoItem fragment path
        ((Tree.mapping es).patched
          (stamping fragment paths))).additions.Nodup
      rw [intoItem_patched hFragment]
      exact nodup_map_addition path
        (nodup_gained _ _ hFragment)

------------------------------------------------------------
-- Merging into Targets
------------------------------------------------------------

/- A mapping that gains no key stays as it is. -/
theorem intoMapping_eq_self
    {es : Mapping Tree}
    (hKeys : (intoMapping es fragment).2 = []) :
    (intoMapping es fragment).1 = es := by
  induction fragment generalizing es with
  | nil => rfl
  | cons e fragment ih =>
      rcases e with ⟨k, v⟩
      by_cases hKey : k ∈ Mapping.keys es
      · simp only [intoMapping, Mapping.appendIfAbsent_eq, hKey,
          if_true] at hKeys ⊢
        exact ih hKeys
      · simp [intoMapping, Mapping.appendIfAbsent_eq, hKey]
          at hKeys

/- An item to which nothing is added stays as it is. -/
theorem intoItem_eq_self
    {path : Path}
    {t : Tree}
    (hAdditions : (intoItem fragment path t).additions = []) :
    (intoItem fragment path t).tree = t := by
  cases t with
  | scalar s => rfl
  | sequence xs => rfl
  | mapping es =>
      simp only [intoItem, List.map_eq_nil_iff] at hAdditions ⊢
      rw [intoMapping_eq_self hAdditions]

/- Items to which nothing is added stay as they are. -/
theorem intoItems_eq_self
    {path : Path}
    {i : Nat}
    {xs : List Tree}
    (hAdditions : (intoItems fragment path i xs).2 = []) :
    (intoItems fragment path i xs).1 = xs := by
  induction xs generalizing i with
  | nil => rfl
  | cons x xs ih =>
      simp only [intoItems, List.append_eq_nil_iff]
        at hAdditions ⊢
      rw [intoItem_eq_self hAdditions.1, ih hAdditions.2]

/- A node to which nothing is added stays as it is. -/
theorem intoNode_eq_self
    {path : Path}
    {t : Tree}
    (hAdditions : (intoNode fragment path t).additions = []) :
    (intoNode fragment path t).tree = t := by
  cases t with
  | scalar s => rfl
  | sequence xs =>
      simp only [intoNode] at hAdditions ⊢
      rw [intoItems_eq_self hAdditions]
  | mapping es => exact intoItem_eq_self hAdditions

/- Merging into a target puts the merged node in its place. -/
theorem intoTarget_eq
    {t n : Tree}
    {path : Path}
    (hNode : t.lookup? path = some n) :
    intoTarget fragment t path =
      ⟨t.setAt path (intoNode fragment path n).tree,
        (intoNode fragment path n).additions⟩ := by
  simp only [intoTarget, hNode]
  by_cases hChanged : (intoNode fragment path n).changed = true
  · simp [hChanged, Tree.replaceAt?_eq_map, hNode]
  · have hAdditions :
        (intoNode fragment path n).additions = [] := by
      simpa [changed] using hChanged
    simp [hChanged, hAdditions, intoNode_eq_self hAdditions,
      Tree.setAt_self hNode]

/-
  Merging into a target of a patched tree stamps what the
  target marks.
-/
theorem intoTarget_patched
    (hFragment : (Mapping.keys fragment).Nodup)
    (paths : Path → Bool)
    {t n : Tree}
    {target : Path}
    (hTarget : t.lookup? target = some n) :
    intoTarget fragment (t.patched (stamping fragment paths))
        target =
      ⟨t.patched
          (stamping fragment fun p => paths p || marks target p),
        (intoNode fragment target
          (n.patched
            (stamping fragment fun q =>
              paths (target ++ q)))).additions⟩ := by
  have hAgree :
      Patch.AgreeOutside target (stamping fragment paths)
        (stamping fragment fun p => paths p || marks target p) := by
    intro q hOutside
    simp [stamping, marks_eq_false_outside hOutside]
  rw [intoTarget_eq (Tree.lookup?_patched _ hTarget),
    stamping_under, intoNode_patched_tree hFragment]
  have hSet := Tree.setAt_patched hAgree hTarget
  simp only [stamping_under, marks_append] at hSet
  rw [hSet]

/- What merging into a target of a patched tree adds. -/
theorem mem_intoTarget_patched_additions
    (hFragment : (Mapping.keys fragment).Nodup)
    {paths : Path → Bool}
    {t n : Tree}
    {target : Path}
    (hTarget : t.lookup? target = some n)
    {a : Addition} :
    a ∈ (intoTarget fragment (t.patched (stamping fragment paths))
        target).additions ↔
      ∃ es, t.lookup? a.path = some (.mapping es) ∧
        marks target a.path = true ∧ paths a.path = false ∧
          a.key ∈ Mapping.keys (lacking fragment es) := by
  rw [intoTarget_patched hFragment paths hTarget,
    mem_intoNode_patched_additions hFragment]
  constructor
  · rintro ⟨q, m, hNode, hPath, hMarks, hKey⟩
    rcases mem_gained_iff.mp hKey with
      ⟨hNew, es, rfl, hLacking⟩
    rw [hPath, Tree.lookup?_append, hTarget]
    exact
      ⟨es, hNode, by rw [marks_append, hMarks], hNew, hLacking⟩
  · rintro ⟨es, hNode, hMarks, hNew, hKey⟩
    obtain ⟨q, hPath⟩ : target <+: a.path := by
      by_contra hOutside
      rw [marks_eq_false_outside hOutside] at hMarks
      exact Bool.false_ne_true hMarks
    rw [← hPath] at hNode hMarks hNew
    rw [Tree.lookup?_append, hTarget] at hNode
    rw [marks_append] at hMarks
    exact ⟨q, .mapping es, hNode, hPath.symm, hMarks,
      mem_gained_iff.mpr ⟨hNew, es, rfl, hKey⟩⟩

/- Further marks join the marks that are there. -/
theorem or_marked_cons
    (paths : Path → Bool)
    (target : Path)
    (targets : List Path) :
    (fun p =>
      (paths p || marks target p) || marked targets p) =
        fun p => paths p || marked (target :: targets) p := by
  funext p
  simp [marked, Bool.or_assoc]

/-
  Merging into targets that all lead to nodes of a tree stamps
  what they mark, whatever has been stamped before.
-/
theorem into_patched_tree
    (hFragment : (Mapping.keys fragment).Nodup)
    (paths : Path → Bool)
    {t : Tree}
    {targets : List Path}
    (hTargets : ∀ p ∈ targets, (t.lookup? p).isSome) :
    (into fragment (t.patched (stamping fragment paths))
        targets).tree =
      t.patched
        (stamping fragment fun p => paths p || marked targets p) := by
  induction targets generalizing paths with
  | nil => simp [into, marked]
  | cons target targets ih =>
      rw [List.forall_mem_cons] at hTargets
      rcases Option.isSome_iff_exists.mp hTargets.1 with
        ⟨n, hTarget⟩
      simp only [into, intoTarget_patched hFragment paths hTarget]
      rw [ih _ hTargets.2, or_marked_cons]

/-
  What merging into targets adds: to each mapping that they
  mark and that was not stamped before, the keys it lacks.
-/
theorem mem_into_patched_additions
    (hFragment : (Mapping.keys fragment).Nodup)
    {paths : Path → Bool}
    {t : Tree}
    {targets : List Path}
    (hTargets : ∀ p ∈ targets, (t.lookup? p).isSome)
    {a : Addition} :
    a ∈ (into fragment (t.patched (stamping fragment paths))
        targets).additions ↔
      ∃ es, t.lookup? a.path = some (.mapping es) ∧
        marked targets a.path = true ∧ paths a.path = false ∧
          a.key ∈ Mapping.keys (lacking fragment es) := by
  induction targets generalizing paths with
  | nil => simp [into, marked]
  | cons target targets ih =>
      rw [List.forall_mem_cons] at hTargets
      rcases Option.isSome_iff_exists.mp hTargets.1 with
        ⟨n, hTarget⟩
      simp only [into, List.mem_append,
        mem_intoTarget_patched_additions hFragment hTarget]
      rw [intoTarget_patched hFragment paths hTarget,
        ih hTargets.2]
      simp only [marked, List.any_cons, Bool.or_eq_true,
        Bool.or_eq_false_iff]
      rw [← exists_or]
      apply exists_congr
      intro es
      cases marks target a.path <;> simp

/- Merging into targets adds no key to a mapping twice. -/
theorem nodup_into_patched_additions
    (hFragment : (Mapping.keys fragment).Nodup)
    (paths : Path → Bool)
    {t : Tree}
    {targets : List Path}
    (hTargets : ∀ p ∈ targets, (t.lookup? p).isSome) :
    (into fragment (t.patched (stamping fragment paths))
        targets).additions.Nodup := by
  induction targets generalizing paths with
  | nil => exact List.nodup_nil
  | cons target targets ih =>
      rw [List.forall_mem_cons] at hTargets
      rcases Option.isSome_iff_exists.mp hTargets.1 with
        ⟨n, hTarget⟩
      simp only [into]
      refine List.nodup_append.mpr ⟨?_, ?_, ?_⟩
      · rw [intoTarget_patched hFragment paths hTarget]
        exact nodup_intoNode_patched_additions hFragment ..
      · rw [intoTarget_patched hFragment paths hTarget]
        exact ih _ hTargets.2
      · -- What the first target marks is stamped for the others.
        rintro a hFirst _ hLater rfl
        rw [intoTarget_patched hFragment paths hTarget] at hLater
        rcases (mem_into_patched_additions hFragment
          hTargets.2).mp hLater with ⟨_, _, _, hNew, _⟩
        rcases (mem_intoTarget_patched_additions hFragment
          hTarget).mp hFirst with ⟨_, _, hMarks, _, _⟩
        rw [hMarks, Bool.or_true] at hNew
        cases hNew

------------------------------------------------------------
-- Merging into a Tree
------------------------------------------------------------

theorem patched_stamping_none (t : Tree) :
    t.patched (stamping fragment fun _ => false) = t := by
  exact Tree.patched_keep t

section Targets

variable {t : Tree} {targets : List Path}

theorem into_tree
    (hFragment : (Mapping.keys fragment).Nodup)
    (hTargets : ∀ p ∈ targets, (t.lookup? p).isSome) :
    (into fragment t targets).tree =
      t.patched (stamping fragment (marked targets)) := by
  have hMerged :=
    into_patched_tree hFragment (fun _ => false) hTargets
  rw [patched_stamping_none] at hMerged
  simpa using hMerged

/- Merging adds to stamped mappings the keys that they lack. -/
theorem mem_into_additions
    (hFragment : (Mapping.keys fragment).Nodup)
    (hTargets : ∀ p ∈ targets, (t.lookup? p).isSome)
    {a : Addition} :
    a ∈ (into fragment t targets).additions ↔
      Stamped t targets a.path ∧
        ∃ es, t.lookup? a.path = some (.mapping es) ∧
          a.key ∈ Mapping.keys (lacking fragment es) := by
  have hMembers :
      a ∈ (into fragment
          (t.patched (stamping fragment fun _ => false))
            targets).additions ↔ _ :=
    mem_into_patched_additions hFragment hTargets
  rw [patched_stamping_none] at hMembers
  rw [hMembers, stamped_iff_marked]
  constructor
  · rintro ⟨es, hNode, hMarked, _, hKey⟩
    exact ⟨⟨⟨es, hNode⟩, hMarked⟩, es, hNode, hKey⟩
  · rintro ⟨⟨_, hMarked⟩, es, hNode, hKey⟩
    exact ⟨es, hNode, hMarked, rfl, hKey⟩

/- Merging adds no key to a mapping twice. -/
theorem nodup_into_additions
    (hFragment : (Mapping.keys fragment).Nodup)
    (hTargets : ∀ p ∈ targets, (t.lookup? p).isSome) :
    (into fragment t targets).additions.Nodup := by
  have hNodup :=
    nodup_into_patched_additions hFragment (fun _ => false)
      hTargets
  rwa [patched_stamping_none] at hNodup

/- Stamping keeps the nodes at and above which nothing is stamped. -/
theorem stamping_agreeOn_keep
    {p : Path}
    {n : Tree}
    (hNode : t.lookup? p = some n)
    (hElsewhere : ∀ q, Stamped t targets q → ¬ p <+: q) :
    Patch.AgreeOn n
      (stamping fragment fun q => marked targets (p ++ q))
      Patch.keep := by
  constructor
  · intro q s _
    rfl
  · intro q es hBelow
    have hAt : t.lookup? (p ++ q) = some (.mapping es) := by
      rw [Tree.lookup?_append, hNode]
      exact hBelow
    have hUnmarked : ¬ marked targets (p ++ q) = true := by
      intro hMarked
      exact hElsewhere (p ++ q)
        (stamped_iff_marked.mpr ⟨⟨es, hAt⟩, hMarked⟩)
        (List.prefix_append p q)
    simp [stamping, hUnmarked, Patch.keep]

end Targets

/- A tree in which a stamped mapping lacks entries does not stay the same. -/
theorem stamping_ne
    {t : Tree}
    {paths : Path → Bool}
    {p : Path}
    {es : Mapping Tree}
    (hNode : t.lookup? p = some (.mapping es))
    (hStamped : paths p = true)
    (hLacking : lacking fragment es ≠ []) :
    t.patched (stamping fragment paths) ≠ t := by
  intro hKept
  have hGrown := Tree.lookup?_patched (stamping fragment paths) hNode
  rw [hKept, hNode, Option.some.injEq, Tree.patched,
    Tree.mapping.injEq] at hGrown
  have hKeys := congrArg (fun m => (Mapping.keys m).length) hGrown
  simp only [Mapping.keys_append, Tree.keys_patchedEntries,
    List.length_append] at hKeys
  have hNothing : (Mapping.keys (lacking fragment es)).length = 0 := by
    simpa [stamping, hStamped] using hKeys
  apply hLacking
  simpa [Mapping.keys] using hNothing

/-
  The effect of merging a fragment into targets of a tree: what
  becomes of each of its nodes, and what is listed as added.
-/
structure Effect
    (fragment : Mapping Tree)
    (t : Tree)
    (targets : List Path)
    (m : Merge) : Prop where
  /- Stamped mappings gain what they lack behind their entries. -/
  stamped : ∀ p es, t.lookup? p = some (.mapping es) →
    Stamped t targets p →
      ∃ old, Mapping.keys old = Mapping.keys es ∧
        m.tree.lookup? p =
          some (.mapping (old ++ lacking fragment es))
  /- Other mappings keep their keys. -/
  unstamped : ∀ p es, t.lookup? p = some (.mapping es) →
    ¬ Stamped t targets p →
      ∃ old, Mapping.keys old = Mapping.keys es ∧
        m.tree.lookup? p = some (.mapping old)
  /- Sequences keep their length. -/
  sequence : ∀ p xs, t.lookup? p = some (.sequence xs) →
    ∃ ys, ys.length = xs.length ∧
      m.tree.lookup? p = some (.sequence ys)
  /- Nodes at and below which nothing is stamped are unchanged. -/
  elsewhere : ∀ p n, t.lookup? p = some n →
    (∀ q, Stamped t targets q → ¬ p <+: q) →
      m.tree.lookup? p = some n
  /- The keys that stamped mappings lacked are listed. -/
  additions : ∀ a, a ∈ m.additions ↔
    Stamped t targets a.path ∧
      ∃ es, t.lookup? a.path = some (.mapping es) ∧
        a.key ∈ Mapping.keys (lacking fragment es)
  /- None is listed twice. -/
  nodup : m.additions.Nodup

/-
  Merging a fragment into targets that all lead to nodes of a
  tree has exactly the effect of stamping.  It does not depend
  on the order of the targets nor on repeated ones, and the
  same targets merged into the result add nothing to it.
-/
theorem into_effect
    (fragment : Mapping Tree)
    (t : Tree)
    (targets : List Path)
    (hFragment : (Mapping.keys fragment).Nodup)
    (hTargets : ∀ p ∈ targets, (t.lookup? p).isSome) :
    Effect fragment t targets (into fragment t targets) ∧
    (∀ others, (∀ p, p ∈ others ↔ p ∈ targets) →
      (into fragment t others).tree =
        (into fragment t targets).tree) ∧
    into fragment (into fragment t targets).tree targets =
      ⟨(into fragment t targets).tree, []⟩ := by
  have hTree := into_tree hFragment hTargets
  have hLookup :
      ∀ p n, t.lookup? p = some n →
        (into fragment t targets).tree.lookup? p =
          some (n.patched (stamping fragment fun q =>
            marked targets (p ++ q))) := by
    intro p n hNode
    rw [hTree]
    exact Tree.lookup?_patched _ hNode
  refine ⟨⟨?_, ?_, ?_, ?_, ?_, ?_⟩, ?_, ?_⟩
  · intro p es hNode hStamped
    have hMarked := (stamped_iff_marked.mp hStamped).2
    refine ⟨_, Tree.keys_patchedEntries
      (stamping fragment fun q => marked targets (p ++ q)) es, ?_⟩
    rw [hLookup p _ hNode]
    simp [Tree.patched, stamping, hMarked]
  · intro p es hNode hUnstamped
    have hUnmarked : ¬ marked targets p = true :=
      fun hMarked => hUnstamped
        (stamped_iff_marked.mpr ⟨⟨es, hNode⟩, hMarked⟩)
    refine ⟨_, Tree.keys_patchedEntries
      (stamping fragment fun q => marked targets (p ++ q)) es, ?_⟩
    rw [hLookup p _ hNode]
    simp [Tree.patched, stamping, hUnmarked]
  · intro p xs hNode
    exact ⟨_, Tree.length_patchedItems _ 0 xs, hLookup p _ hNode⟩
  · intro p n hNode hElsewhere
    rw [hLookup p n hNode,
      Tree.patched_eq_self (stamping_agreeOn_keep hNode hElsewhere)]
  · exact fun a => mem_into_additions hFragment hTargets
  · exact nodup_into_additions hFragment hTargets
  · intro others hSame
    have hOthers : ∀ p ∈ others, (t.lookup? p).isSome :=
      fun p hMember => hTargets p ((hSame p).mp hMember)
    have hMarked : marked others = marked targets := by
      funext p
      rw [Bool.eq_iff_iff, marked, marked, List.any_eq_true,
        List.any_eq_true]
      exact exists_congr fun q => and_congr_left' (hSame q)
    rw [into_tree hFragment hOthers, hTree, hMarked]
  · have hAgain :=
      into_patched_tree hFragment (marked targets) hTargets
    have hNone :
        (into fragment
          (t.patched (stamping fragment (marked targets)))
            targets).additions = [] := by
      rw [List.eq_nil_iff_forall_not_mem]
      intro a hMember
      rcases (mem_into_patched_additions hFragment hTargets).mp
        hMember with ⟨_, _, hMarked, hNew, _⟩
      rw [hMarked] at hNew
      cases hNew
    simp only [Bool.or_self] at hAgain
    rw [hTree]
    calc
      into fragment
          (t.patched (stamping fragment (marked targets))) targets =
        ⟨(into fragment
            (t.patched (stamping fragment (marked targets)))
              targets).tree,
          (into fragment
            (t.patched (stamping fragment (marked targets)))
              targets).additions⟩ := rfl
      _ = ⟨t.patched (stamping fragment (marked targets)), []⟩ := by
        rw [hAgain, hNone]

/-
  Labels merged into a document whose targets are nested and
  repeated, and name a sequence as well as one of its items.
-/
theorem into_effect_nested :
    let fragment : Mapping Tree :=
      [("app", .string "web"), ("tier", .mapping [])]
    let t : Tree :=
      .mapping [
        ("app", .string "shop"),
        ("specs", .sequence [
          .mapping [("spec", .mapping [("tier", .null)])],
          .string "other"])]
    let targets : List Path :=
      [[.field "specs", .index 0, .field "spec"],
        [.field "specs"],
        [],
        [.field "specs", .index 0],
        [.field "specs"]]
    (Mapping.keys fragment).Nodup ∧
    (∀ p ∈ targets, (t.lookup? p).isSome) ∧
    Effect fragment t targets (into fragment t targets) ∧
    (∀ others, (∀ p, p ∈ others ↔ p ∈ targets) →
      (into fragment t others).tree =
        (into fragment t targets).tree) ∧
    into fragment (into fragment t targets).tree targets =
      ⟨(into fragment t targets).tree, []⟩ := by
  intro fragment t targets
  have hFragment : (Mapping.keys fragment).Nodup := by decide
  have hTargets : ∀ p ∈ targets, (t.lookup? p).isSome := by
    decide
  exact ⟨hFragment, hTargets,
    into_effect fragment t targets hFragment hTargets⟩

end Merge

end ManifestRecipes
