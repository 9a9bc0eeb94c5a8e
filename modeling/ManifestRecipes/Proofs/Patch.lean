import ManifestRecipes.Proofs.Tree

/-
  Changing many nodes of a tree at once.

  A patch tells for every path what becomes of a scalar there
  and which entries a mapping there gains at its end.  What
  one change after the other does to a tree is described by a
  single patch of the tree they began with.

  Key definitions include:
    * `Patch`
    * `Tree.patched`

  Main declarations:
    * `Tree.lookup?_patched`
    * `Tree.lookup?_patched_eq_some`
    * `Tree.patched_congr`
    * `Tree.patched_eq_self`
    * `Tree.setAt_patched`
    * `Tree.uniqueKeys_patched`
-/

namespace ManifestRecipes

------------------------------------------------------------
-- Patches
------------------------------------------------------------

/-
  What becomes of scalars and what mappings gain, by path.
-/
@[ext]
structure Patch where
  scalar : Path → Scalar → Scalar
  extra : Path → Mapping Tree → Mapping Tree

namespace Patch

/- The part of a patch below the node that a path leads to. -/
def under (P : Patch) (p : Path) : Patch :=
  ⟨fun q => P.scalar (p ++ q), fun q => P.extra (p ++ q)⟩

/-
  The part of a patch for the entries behind one of a key.
  No path leads to a second entry of the key.
-/
def without (P : Patch) (k : String) : Patch :=
  ⟨fun p s =>
      if p.head? = some (.field k) then s else P.scalar p s,
    fun p es =>
      if p.head? = some (.field k) then [] else P.extra p es⟩

@[simp] theorem under_nil (P : Patch) :
    P.under [] = P := by
  rfl

@[simp] theorem under_under (P : Patch) (p q : Path) :
    (P.under p).under q = P.under (p ++ q) := by
  simp [under, List.append_assoc]

@[simp] theorem under_extra (P : Patch) (p q : Path) :
    (P.under p).extra q = P.extra (p ++ q) := by
  rfl

@[simp] theorem under_scalar (P : Patch) (p q : Path) :
    (P.under p).scalar q = P.scalar (p ++ q) := by
  rfl

theorem without_under
    {P : Patch}
    {k l : String}
    (hOther : l ≠ k) :
    (P.without k).under [.field l] = P.under [.field l] := by
  simp [under, without, hOther]

theorem without_comm (P : Patch) (k l : String) :
    (P.without k).without l = (P.without l).without k := by
  ext <;> simp only [without] <;> split_ifs <;> rfl

end Patch

namespace Tree

mutual

/- A tree after a patch. -/
def patched (P : Patch) : Tree → Tree
  | .scalar s => .scalar (P.scalar [] s)
  | .sequence xs => .sequence (patchedItems P 0 xs)
  | .mapping es => .mapping (patchedEntries P es ++ P.extra [] es)

/- Items from a position on after a patch. -/
def patchedItems (P : Patch) : Nat → List Tree → List Tree
  | _, [] => []
  | i, x :: xs =>
      patched (P.under [.index i]) x :: patchedItems P (i + 1) xs

/- Entries after a patch. -/
def patchedEntries (P : Patch) :
    List (String × Tree) → List (String × Tree)
  | [] => []
  | (k, v) :: es =>
      (k, patched (P.under [.field k]) v) ::
        patchedEntries (P.without k) es

end

------------------------------------------------------------
-- Lookup
------------------------------------------------------------

@[simp] theorem keys_patchedEntries
    (P : Patch)
    (es : Mapping Tree) :
    Mapping.keys (patchedEntries P es) = Mapping.keys es := by
  induction es generalizing P with
  | nil => rfl
  | cons e es ih =>
      rcases e with ⟨k, v⟩
      simp [patchedEntries, ih]

@[simp] theorem length_patchedItems
    (P : Patch)
    (i : Nat)
    (xs : List Tree) :
    (patchedItems P i xs).length = xs.length := by
  induction xs generalizing i with
  | nil => rfl
  | cons x xs ih => simp [patchedItems, ih]

/- An entry holds the patched value. -/
theorem get?_patchedEntries
    (P : Patch)
    (k : String)
    (es : Mapping Tree) :
    Mapping.get? k (patchedEntries P es) =
      (Mapping.get? k es).map (patched (P.under [.field k])) := by
  induction es generalizing P with
  | nil => rfl
  | cons e es ih =>
      rcases e with ⟨l, v⟩
      by_cases hKey : l = k
      · simp [patchedEntries, Mapping.get?, hKey]
      · have hOther : k ≠ l := fun h => hKey h.symm
        simp [patchedEntries, Mapping.get?, hKey, ih,
          Patch.without_under hOther]

theorem getElem?_patchedItems
    (P : Patch)
    (i j : Nat)
    (xs : List Tree) :
    (patchedItems P i xs)[j]? =
      xs[j]?.map (patched (P.under [.index (i + j)])) := by
  induction xs generalizing i j with
  | nil => rfl
  | cons x xs ih =>
      cases j with
      | zero => simp [patchedItems]
      | succ j =>
          simp only [patchedItems, List.getElem?_cons_succ, ih]
          rw [Nat.add_assoc, Nat.add_comm 1 j]

theorem child?_patched
    {t c : Tree}
    {e : Path.Element}
    (P : Patch)
    (hChild : t.child? e = some c) :
    (t.patched P).child? e = some (c.patched (P.under [e])) := by
  rcases child?_eq_some_iff.mp hChild with
    ⟨xs, i, rfl, rfl, hItem⟩ | ⟨es, k, rfl, rfl, hEntry⟩
  · simp [patched, child?, getElem?_patchedItems, hItem]
  · simp [patched, child?, Mapping.get?_append,
      get?_patchedEntries, hEntry]

/- Every node of a tree is found again, patched. -/
theorem lookup?_patched
    {t n : Tree}
    {p : Path}
    (P : Patch)
    (hNode : t.lookup? p = some n) :
    (t.patched P).lookup? p = some (n.patched (P.under p)) := by
  induction hNode using lookupInduction generalizing P with
  | here => simp
  | @step _ _ e _ hChild _ _ ih =>
      rw [lookup?_cons, child?_patched P hChild]
      simpa using ih (P.under [e])

/-
  A child of a patched tree is a patched child or the value
  of an entry that the patch adds.
-/
theorem child?_patched_eq_some
    {t c : Tree}
    {e : Path.Element}
    {P : Patch}
    (hChild : (t.patched P).child? e = some c) :
    (∃ b, t.child? e = some b ∧ c = b.patched (P.under [e])) ∨
      ∃ es k, t = .mapping es ∧ e = .field k ∧
        k ∉ Mapping.keys es ∧
          Mapping.get? k (P.extra [] es) = some c := by
  cases t with
  | scalar s => cases e <;> simp [patched, child?] at hChild
  | sequence xs =>
      cases e with
      | field k => simp [patched, child?] at hChild
      | index i =>
          simp only [patched, child?, getElem?_patchedItems,
            Nat.zero_add, Option.map_eq_some_iff] at hChild
          rcases hChild with ⟨x, hItem, rfl⟩
          exact Or.inl ⟨x, hItem, rfl⟩
  | mapping es =>
      cases e with
      | index i => simp [patched, child?] at hChild
      | field k =>
          simp only [patched, child?, Mapping.get?_append,
            get?_patchedEntries] at hChild
          cases hEntry : Mapping.get? k es with
          | some v =>
              rw [hEntry, Option.map_some, Option.some_or,
                Option.some.injEq] at hChild
              exact Or.inl ⟨v, hEntry, hChild.symm⟩
          | none =>
              rw [hEntry, Option.map_none, Option.none_or]
                at hChild
              exact Or.inr ⟨es, k, rfl, rfl,
                Mapping.get?_eq_none_iff.mp hEntry, hChild⟩

/-
  A node of a patched tree is a patched node, or lies in the
  value of an entry that the patch adds to a mapping.
-/
theorem lookup?_patched_eq_some
    {t m : Tree}
    {p : Path}
    {P : Patch}
    (hNode : (t.patched P).lookup? p = some m) :
    (∃ n, t.lookup? p = some n ∧ m = n.patched (P.under p)) ∨
      ∃ q es k v r, p = q ++ .field k :: r ∧
        t.lookup? q = some (.mapping es) ∧
          k ∉ Mapping.keys es ∧
            Mapping.get? k (P.extra q es) = some v ∧
              v.lookup? r = some m := by
  induction p generalizing t P with
  | nil =>
      rw [lookup?_nil, Option.some.injEq] at hNode
      exact Or.inl ⟨t, lookup?_nil t, hNode.symm⟩
  | cons e p ih =>
      rw [lookup?_cons, Option.bind_eq_some_iff] at hNode
      rcases hNode with ⟨c, hChild, hNode⟩
      rcases child?_patched_eq_some hChild with
        ⟨b, hOld, rfl⟩ | ⟨es, k, rfl, rfl, hKey, hNew⟩
      · rcases ih hNode with
          ⟨n, hBelow, rfl⟩ |
            ⟨q, es, k, v, r, rfl, hBelow, hKey, hNew, hRest⟩
        · exact Or.inl ⟨n, by simp [lookup?_cons, hOld, hBelow],
            by simp⟩
        · exact Or.inr ⟨e :: q, es, k, v, r, rfl,
            by simp [lookup?_cons, hOld, hBelow], hKey, hNew,
            hRest⟩
      · exact Or.inr ⟨[], es, k, c, p, rfl, lookup?_nil _, hKey,
          hNew, hNode⟩

/- What patched items are depends on the patch below indices only. -/
theorem patchedItems_congr
    {P Q : Patch}
    (hItems : ∀ i, P.under [.index i] = Q.under [.index i])
    (i : Nat)
    (xs : List Tree) :
    patchedItems P i xs = patchedItems Q i xs := by
  apply List.ext_getElem?
  intro j
  rw [getElem?_patchedItems, getElem?_patchedItems, hItems]

/- What patched entries are depends on the patch below keys only. -/
theorem patchedEntries_congr
    {P Q : Patch}
    (hEntries : ∀ k, P.under [.field k] = Q.under [.field k])
    (es : Mapping Tree) :
    patchedEntries P es = patchedEntries Q es := by
  induction es generalizing P Q with
  | nil => rfl
  | cons e es ih =>
      rcases e with ⟨k, v⟩
      have hBehind :
          ∀ l, (P.without k).under [.field l] =
            (Q.without k).under [.field l] := by
        intro l
        by_cases hKey : l = k
        · simp [Patch.under, Patch.without, hKey]
        · rw [Patch.without_under hKey, hEntries,
            Patch.without_under hKey]
      rw [patchedEntries, patchedEntries, hEntries, ih hBehind]

theorem patchedEntries_without
    {P : Patch}
    {k : String}
    {es : Mapping Tree}
    (hKey : k ∉ Mapping.keys es) :
    patchedEntries (P.without k) es = patchedEntries P es := by
  induction es generalizing P with
  | nil => rfl
  | cons e es ih =>
      rcases e with ⟨l, v⟩
      rw [Mapping.keys_cons, List.mem_cons, not_or] at hKey
      have hOther : l ≠ k := fun h => hKey.1 h.symm
      rw [patchedEntries, patchedEntries, Patch.without_under hOther,
        Patch.without_comm, ih hKey.2]

------------------------------------------------------------
-- Patches With the Same Effect
------------------------------------------------------------

end Tree

namespace Patch

/- The patch that leaves everything as it is. -/
def keep : Patch :=
  ⟨fun _ s => s, fun _ _ => []⟩

/- Two patches do the same to the nodes of a tree. -/
structure AgreeOn (t : Tree) (P Q : Patch) : Prop where
  scalar : ∀ p s,
    t.lookup? p = some (.scalar s) → P.scalar p s = Q.scalar p s
  extra : ∀ p es,
    t.lookup? p = some (.mapping es) → P.extra p es = Q.extra p es

/- Patches do the same to the nodes that steps lead to. -/
theorem AgreeOn.child
    {P Q : Patch}
    {t c : Tree}
    {e : Path.Element}
    (hAgree : AgreeOn t P Q)
    (hChild : t.child? e = some c) :
    AgreeOn c (P.under [e]) (Q.under [e]) := by
  constructor
  · intro p s hNode
    exact hAgree.scalar (e :: p) s (by
      simpa [Tree.lookup?_cons, hChild] using hNode)
  · intro p es hNode
    exact hAgree.extra (e :: p) es (by
      simpa [Tree.lookup?_cons, hChild] using hNode)

@[simp] theorem keep_under (p : Path) :
    keep.under p = keep := by
  rfl

@[simp] theorem keep_without (k : String) :
    keep.without k = keep := by
  simp [keep, without]

end Patch

namespace Tree

/-
  Entries with the same patched values are the same.  Behind
  the first entry of a key, nothing is patched under the key.
-/
theorem patchedEntries_eq_of_agree
    {P Q : Patch}
    {es : Mapping Tree}
    (hValues : ∀ k v, (k, v) ∈ es →
      ∀ R S : Patch, Patch.AgreeOn v R S →
        v.patched R = v.patched S)
    (hFirst : ∀ k v, Mapping.get? k es = some v →
      Patch.AgreeOn v (P.under [.field k])
        (Q.under [.field k])) :
    patchedEntries P es = patchedEntries Q es := by
  induction es generalizing P Q with
  | nil => rfl
  | cons e es ih =>
      rcases e with ⟨k, v⟩
      have hHead :
          v.patched (P.under [.field k]) =
            v.patched (Q.under [.field k]) :=
        hValues k v List.mem_cons_self _ _
          (hFirst k v (by simp [Mapping.get?]))
      have hTail :
          patchedEntries (P.without k) es =
            patchedEntries (Q.without k) es := by
        apply ih
        · intro l w hLater
          exact hValues l w (List.mem_cons_of_mem _ hLater)
        · intro l w hGet
          by_cases hKey : l = k
          · subst hKey
            constructor <;> simp [Patch.without]
          · rw [Patch.without_under hKey,
              Patch.without_under hKey]
            apply hFirst
            rw [Mapping.get?, if_neg fun h => hKey h.symm]
            exact hGet
      rw [patchedEntries, patchedEntries, hHead, hTail]

/- Patches that do the same to the nodes of a tree do the same to it. -/
theorem patched_congr
    {P Q : Patch}
    {t : Tree}
    (hAgree : Patch.AgreeOn t P Q) :
    t.patched P = t.patched Q := by
  induction t using Tree.induction generalizing P Q with
  | scalar s =>
      rw [patched, patched, hAgree.scalar [] s (lookup?_nil _)]
  | sequence xs ih =>
      rw [patched, patched, Tree.sequence.injEq]
      apply List.ext_getElem?
      intro i
      rw [getElem?_patchedItems, getElem?_patchedItems]
      cases hItem : xs[i]? with
      | none => rfl
      | some x =>
          apply congrArg some
          apply ih x (List.mem_of_getElem? hItem)
          simpa using hAgree.child (child?_eq_some_iff.mpr
            (Or.inl ⟨xs, i, rfl, rfl, hItem⟩))
  | mapping es ih =>
      rw [patched, patched,
        hAgree.extra [] es (lookup?_nil _),
        patchedEntries_eq_of_agree]
      · exact fun k v hEntry _ _ => ih k v hEntry
      · intro k v hGet
        exact hAgree.child (child?_eq_some_iff.mpr
          (Or.inr ⟨es, k, rfl, rfl, hGet⟩))

/- The patch that leaves everything as it is changes no tree. -/
theorem patched_keep (t : Tree) :
    t.patched Patch.keep = t := by
  induction t using Tree.induction with
  | scalar s => rfl
  | sequence xs ih =>
      rw [patched, Tree.sequence.injEq]
      apply List.ext_getElem?
      intro i
      rw [getElem?_patchedItems, Patch.keep_under]
      cases hItem : xs[i]? with
      | none => rfl
      | some x =>
          exact congrArg some (ih x (List.mem_of_getElem? hItem))
  | mapping es ih =>
      have hEntries : patchedEntries Patch.keep es = es := by
        induction es with
        | nil => rfl
        | cons e es ihEntries =>
            rcases e with ⟨k, v⟩
            rw [patchedEntries, Patch.keep_under,
              Patch.keep_without, ih k v List.mem_cons_self,
              ihEntries fun l w hLater =>
                ih l w (List.mem_cons_of_mem _ hLater)]
      rw [patched, hEntries]
      simp [Patch.keep]

/- A patch that keeps the nodes of a tree keeps the tree. -/
theorem patched_eq_self
    {P : Patch}
    {t : Tree}
    (hAgree : Patch.AgreeOn t P Patch.keep) :
    t.patched P = t := by
  rw [patched_congr hAgree, patched_keep]

------------------------------------------------------------
-- Patching One Node More
------------------------------------------------------------

end Tree

/- Two patches do the same at paths that do not begin with another. -/
def Patch.AgreeOutside (p : Path) (P Q : Patch) : Prop :=
  ∀ q, ¬ p <+: q → P.scalar q = Q.scalar q ∧ P.extra q = Q.extra q

namespace Patch

variable {P Q : Patch} {e : Path.Element} {p : Path}

theorem AgreeOutside.extra_nil
    (hAgree : AgreeOutside (e :: p) P Q) :
    P.extra [] = Q.extra [] := by
  exact (hAgree [] (by simp)).2

theorem AgreeOutside.under_head
    (hAgree : AgreeOutside (e :: p) P Q) :
    AgreeOutside p (P.under [e]) (Q.under [e]) := by
  intro q hOutside
  exact hAgree (e :: q) (by simpa using hOutside)

/- Patches are the same below another step. -/
theorem AgreeOutside.under_other
    {f : Path.Element}
    (hAgree : AgreeOutside (e :: p) P Q)
    (hOther : e ≠ f) :
    P.under [f] = Q.under [f] := by
  have hOutside : ∀ q, ¬ e :: p <+: f :: q := by
    intro q hPrefix
    exact hOther (List.cons_prefix_cons.mp hPrefix).1
  ext1
  · funext q
    exact (hAgree (f :: q) (hOutside q)).1
  · funext q
    exact (hAgree (f :: q) (hOutside q)).2

/- Patches are the same behind the entry that the path leads to. -/
theorem AgreeOutside.without_head
    {k : String}
    (hAgree : AgreeOutside (.field k :: p) P Q) :
    P.without k = Q.without k := by
  have hOutside :
      ∀ q : Path, q.head? ≠ some (.field k) →
        ¬ .field k :: p <+: q := by
    rintro q hHead ⟨r, rfl⟩
    exact hHead rfl
  ext1
  · funext q s
    by_cases hHead : q.head? = some (.field k)
    · simp [without, hHead]
    · simp [without, hHead, (hAgree q (hOutside q hHead)).1]
  · funext q es
    by_cases hHead : q.head? = some (.field k)
    · simp [without, hHead]
    · simp [without, hHead, (hAgree q (hOutside q hHead)).2]

/- Patches agree behind other entries. -/
theorem AgreeOutside.without_other
    {k : String}
    (hAgree : AgreeOutside (e :: p) P Q) :
    AgreeOutside (e :: p) (P.without k) (Q.without k) := by
  intro q hOutside
  have hSame := hAgree q hOutside
  constructor
  · funext s
    simp [without, hSame.1]
  · funext es
    simp [without, hSame.2]

end Patch

namespace Tree

/- Setting the entry of a key patches the entries. -/
theorem insert_patchedEntries
    {P Q : Patch}
    {k : String}
    {p : Path}
    {v : Tree}
    {es : Mapping Tree}
    (hAgree : Patch.AgreeOutside (.field k :: p) P Q)
    (hGet : Mapping.get? k es = some v) :
    Mapping.insert k (v.patched (Q.under [.field k]))
        (patchedEntries P es) =
      patchedEntries Q es := by
  induction es generalizing P Q with
  | nil => simp [Mapping.get?] at hGet
  | cons e es ih =>
      rcases e with ⟨l, w⟩
      by_cases hKey : l = k
      · subst hKey
        simp only [Mapping.get?, if_true, Option.some.injEq]
          at hGet
        simp [patchedEntries, Mapping.insert, hGet,
          hAgree.without_head]
      · have hOther : Path.Element.field k ≠ .field l := by
          simpa [eq_comm] using hKey
        have hBehind : (Q.without l).under [.field k] =
            Q.under [.field k] :=
          Patch.without_under fun h => hKey h.symm
        rw [Mapping.get?, if_neg hKey] at hGet
        rw [patchedEntries, Mapping.insert, if_neg hKey,
          patchedEntries, hAgree.under_other hOther, ← hBehind,
          ih hAgree.without_other hGet]

/- Setting an item patches the items. -/
theorem set_patchedItems
    {P Q : Patch}
    {i j : Nat}
    {p : Path}
    {x : Tree}
    {xs : List Tree}
    (hAgree : Patch.AgreeOutside (.index (i + j) :: p) P Q)
    (hItem : xs[j]? = some x) :
    (patchedItems P i xs).set j
        (x.patched (Q.under [.index (i + j)])) =
      patchedItems Q i xs := by
  apply List.ext_getElem?
  intro l
  rw [List.getElem?_set, getElem?_patchedItems,
    getElem?_patchedItems, length_patchedItems]
  by_cases hSame : j = l
  · subst hSame
    rcases List.getElem?_eq_some_iff.mp hItem with ⟨hLt, rfl⟩
    simp [hLt]
  · have hOther :
        Path.Element.index (i + j) ≠ .index (i + l) := by
      simpa using hSame
    simp [hSame, hAgree.under_other hOther]

/-
  Where two patches agree outside a path, setting the node
  there as the second patches it turns the work of the first
  into that of the second.
-/
theorem setAt_patched
    {P Q : Patch}
    {t n : Tree}
    {p : Path}
    (hAgree : Patch.AgreeOutside p P Q)
    (hNode : t.lookup? p = some n) :
    (t.patched P).setAt p (n.patched (Q.under p)) =
      t.patched Q := by
  induction hNode using lookupInduction generalizing P Q with
  | here => simp [setAt]
  | @step t c e p hChild _ _ ih =>
      have hBelow :
          (c.patched (P.under [e])).setAt p
              (n.patched (Q.under (e :: p))) =
            c.patched (Q.under [e]) := by
        simpa using ih hAgree.under_head
      rw [setAt_cons (child?_patched P hChild), hBelow]
      rcases child?_eq_some_iff.mp hChild with
        ⟨xs, i, rfl, rfl, hItem⟩ | ⟨es, k, rfl, rfl, hEntry⟩
      · have hSet := set_patchedItems (i := 0)
          (by simpa using hAgree) hItem
        simp only [patched, setChild]
        simpa using hSet
      · have hKey : k ∈ Mapping.keys (patchedEntries P es) := by
          rw [keys_patchedEntries]
          exact Mapping.mem_keys_iff.mpr
            ⟨c, Mapping.mem_of_get?_eq_some hEntry⟩
        simp only [patched, setChild,
          Mapping.insert_append_of_mem hKey,
          insert_patchedEntries hAgree hEntry,
          hAgree.extra_nil]

------------------------------------------------------------
-- Unique Keys
------------------------------------------------------------

/-
  A tree keeps unique keys when every mapping has unique keys
  together with the entries that it gains.
-/
theorem uniqueKeys_patched
    {P : Patch}
    {t : Tree}
    (hKeys : t.UniqueKeys)
    (hExtra : ∀ p es, t.lookup? p = some (.mapping es) →
      (Tree.mapping (es ++ P.extra p es)).UniqueKeys) :
    (t.patched P).UniqueKeys := by
  induction t using Tree.induction generalizing P with
  | scalar s => simp [patched]
  | sequence xs ih =>
      rw [patched, uniqueKeys_sequence_iff]
      intro y hMember
      rcases List.mem_iff_getElem?.mp hMember with ⟨i, hItem⟩
      rw [getElem?_patchedItems, Option.map_eq_some_iff] at hItem
      rcases hItem with ⟨x, hItem, rfl⟩
      have hOld := List.mem_of_getElem? hItem
      refine ih x hOld (uniqueKeys_sequence_iff.mp hKeys x hOld) ?_
      intro p es hNode
      apply hExtra
      simpa [lookup?_cons, child?, hItem] using hNode
  | mapping es ih =>
      have hOwn := uniqueKeys_mapping_iff.mp hKeys
      have hWith := uniqueKeys_mapping_iff.mp
        (hExtra [] es (lookup?_nil _))
      rw [patched, uniqueKeys_mapping_iff]
      refine ⟨by simpa using hWith.1, ?_⟩
      intro k w hMember
      rcases List.mem_append.mp hMember with hOld | hNew
      · have hFound := (Mapping.get?_eq_some_iff
          (by simpa using hOwn.1)).mpr hOld
        rw [get?_patchedEntries, Option.map_eq_some_iff] at hFound
        rcases hFound with ⟨v, hGet, rfl⟩
        have hEntry := Mapping.mem_of_get?_eq_some hGet
        refine ih k v hEntry (hOwn.2 k v hEntry) ?_
        intro p fs hNode
        apply hExtra
        simpa [lookup?_cons, child?, hGet] using hNode
      · exact hWith.2 k w (List.mem_append_right es hNew)

end Tree

end ManifestRecipes
