import ManifestRecipes.Proofs.Merge

/-
  Trees that grow.

  A tree grows when its mappings gain entries behind those
  they have.  Everything that was there keeps its place, and
  what stands in it may have grown in turn.  Merging does no
  more than that, whatever the targets are and whether they
  lead anywhere.

  Key definitions include:
    * `Tree.GrowsTo`

  Main declarations:
    * `Tree.GrowsTo.exists_item`
    * `Tree.GrowsTo.exists_entry`
    * `Tree.GrowsTo.trans`
    * `Tree.GrowsTo.setAt`
    * `Merge.growsTo_into`
-/

namespace ManifestRecipes

------------------------------------------------------------
-- Mappings With More Keys
------------------------------------------------------------

namespace Mapping

variable {α : Type} {m n : Mapping α} {k : String} {v : α} {i : Nat}

theorem getElem?_keys (m : Mapping α) (i : Nat) :
    (keys m)[i]? = m[i]?.map Prod.fst := by
  rw [keys, List.getElem?_map]

/- The first keys of a mapping have entries where they had them before. -/
theorem exists_entry_of_prefix
    (hKeys : keys m <+: keys n)
    (hEntry : m[i]? = some (k, v)) :
    ∃ w, n[i]? = some (k, w) := by
  have hKey : (keys m)[i]? = some k := by
    rw [getElem?_keys, hEntry, Option.map_some]
  obtain ⟨more, hMore⟩ := hKeys
  have hKey' : (keys n)[i]? = some k := by
    rw [← hMore, List.getElem?_append_left
      (List.getElem?_eq_some_iff.mp hKey).1, hKey]
  rw [getElem?_keys, Option.map_eq_some_iff] at hKey'
  rcases hKey' with ⟨⟨_, w⟩, hEntry', rfl⟩
  exact ⟨w, hEntry'⟩

/- A key that is present keeps its position before new ones. -/
theorem position?_of_prefix
    (hKeys : keys m <+: keys n)
    (hPosition : position? k m = some i) :
    position? k n = some i := by
  induction m generalizing n i with
  | nil => cases hPosition
  | cons e m ih =>
      rcases e with ⟨l, v⟩
      cases n with
      | nil => simp at hKeys
      | cons e' n =>
          rcases e' with ⟨l', v'⟩
          rw [keys_cons, keys_cons, List.cons_prefix_cons] at hKeys
          rcases hKeys with ⟨rfl, hKeys⟩
          by_cases hKey : l = k
          · simpa [position?, hKey] using hPosition
          · simp only [position?, hKey, if_false,
              Option.map_eq_some_iff] at hPosition ⊢
            rcases hPosition with ⟨j, hLater, rfl⟩
            exact ⟨j, ih hKeys hLater, rfl⟩

/- Setting a present key changes at most its value. -/
theorem value_insert_cases
    {l l' : String}
    {u w x : α}
    (hGet : get? k m = some v)
    (hEntry : m[i]? = some (l, u))
    (hEntry' : (insert k w m)[i]? = some (l', x)) :
    x = u ∨ (u = v ∧ x = w) := by
  induction m generalizing i with
  | nil => cases hEntry
  | cons e m ih =>
      rcases e with ⟨j, y⟩
      by_cases hKey : j = k
      · simp only [insert, hKey, if_true] at hEntry'
        cases i with
        | zero => simp_all [get?]
        | succ i => simp_all
      · simp only [insert, hKey, if_false] at hEntry'
        simp only [get?, hKey, if_false] at hGet
        cases i with
        | zero => simp_all
        | succ i => exact ih hGet hEntry hEntry'

end Mapping

------------------------------------------------------------
-- Growth
------------------------------------------------------------

namespace Tree

/- A tree becomes another by entries at the ends of mappings. -/
inductive GrowsTo : Tree → Tree → Prop where
  /- Scalars stay as they are. -/
  | scalar (s : Scalar) :
      GrowsTo (.scalar s) (.scalar s)
  /- Sequences keep their length, and their items grow. -/
  | sequence {xs ys : List Tree}
      (hLength : xs.length = ys.length)
      (hItems : ∀ (i : Nat) (x y : Tree),
        xs[i]? = some x → ys[i]? = some y → GrowsTo x y) :
      GrowsTo (.sequence xs) (.sequence ys)
  /- Mappings keep their keys in front, and their values grow. -/
  | mapping {es fs : Mapping Tree}
      (hKeys : Mapping.keys es <+: Mapping.keys fs)
      (hValues : ∀ (i : Nat) (k l : String) (v w : Tree),
        es[i]? = some (k, v) → fs[i]? = some (l, w) → GrowsTo v w) :
      GrowsTo (.mapping es) (.mapping fs)

namespace GrowsTo

variable {t u n n' : Tree}

/- A tree that gains nothing has grown by nothing. -/
@[simp] theorem refl (t : Tree) : t.GrowsTo t := by
  induction t using Tree.induction with
  | scalar s => exact .scalar s
  | sequence xs ih =>
      refine .sequence rfl ?_
      intro i x y hItem hItem'
      rw [hItem, Option.some.injEq] at hItem'
      exact hItem' ▸ ih x (List.mem_of_getElem? hItem)
  | mapping es ih =>
      refine .mapping List.prefix_rfl ?_
      intro i k l v w hEntry hEntry'
      rw [hEntry, Option.some.injEq, Prod.mk.injEq] at hEntry'
      exact hEntry'.2 ▸ ih k v (List.mem_of_getElem? hEntry)

/- Every item is found again. -/
theorem exists_item
    {xs : List Tree}
    {i : Nat}
    (hGrows : (Tree.sequence xs).GrowsTo u)
    (hItem : xs[i]? = some n) :
    ∃ ys n', u = .sequence ys ∧ ys[i]? = some n' ∧
      n.GrowsTo n' := by
  cases hGrows with
  | @sequence _ ys hLength hItems =>
      have hInside : i < ys.length :=
        hLength ▸ (List.getElem?_eq_some_iff.mp hItem).1
      have hItem' : ys[i]? = some ys[i] :=
        List.getElem?_eq_getElem hInside
      exact ⟨ys, _, rfl, hItem', hItems i n _ hItem hItem'⟩

/- So is every entry, behind the same keys. -/
theorem exists_entry
    {es : Mapping Tree}
    {i : Nat}
    {k : String}
    (hGrows : (Tree.mapping es).GrowsTo u)
    (hEntry : es[i]? = some (k, n)) :
    ∃ fs n', u = .mapping fs ∧
      Mapping.keys es <+: Mapping.keys fs ∧
        fs[i]? = some (k, n') ∧ n.GrowsTo n' := by
  cases hGrows with
  | @mapping _ fs hKeys hValues =>
      obtain ⟨n', hEntry'⟩ :=
        Mapping.exists_entry_of_prefix hKeys hEntry
      exact ⟨fs, n', rfl, hKeys, hEntry',
        hValues i k k n n' hEntry hEntry'⟩

/- What has grown twice has grown. -/
theorem trans
    {t₁ t₂ t₃ : Tree}
    (hFirst : t₁.GrowsTo t₂)
    (hSecond : t₂.GrowsTo t₃) :
    t₁.GrowsTo t₃ := by
  induction hFirst generalizing t₃ with
  | scalar s => exact hSecond
  | @sequence xs ys hLength _ ih =>
      cases hSecond with
      | @sequence _ zs hLength' hItems' =>
          refine .sequence (hLength.trans hLength') ?_
          intro i x z hItem hItem'
          have hInside : i < ys.length :=
            hLength ▸ (List.getElem?_eq_some_iff.mp hItem).1
          have hBetween : ys[i]? = some ys[i] :=
            List.getElem?_eq_getElem hInside
          exact ih i x _ hItem hBetween
            (hItems' i _ z hBetween hItem')
  | @mapping es fs hKeys _ ih =>
      cases hSecond with
      | @mapping _ gs hKeys' hValues' =>
          refine .mapping (hKeys.trans hKeys') ?_
          intro i k l v w hEntry hEntry'
          obtain ⟨u, hBetween⟩ :=
            Mapping.exists_entry_of_prefix hKeys hEntry
          exact ih i k k v u hEntry hBetween
            (hValues' i k l u w hBetween hEntry')

/- A mapping grows by entries behind its own. -/
theorem append (es extra : Mapping Tree) :
    (Tree.mapping es).GrowsTo (.mapping (es ++ extra)) := by
  refine .mapping ?_ ?_
  · rw [Mapping.keys_append]
    exact List.prefix_append ..
  · intro i k l v w hEntry hEntry'
    rw [List.getElem?_append_left
      (List.getElem?_eq_some_iff.mp hEntry).1, hEntry,
      Option.some.injEq, Prod.mk.injEq] at hEntry'
    exact hEntry'.2 ▸ .refl v

/- A tree grows when a child of it is replaced by a grown one. -/
theorem setChild
    {e : Path.Element}
    (hChild : t.child? e = some n)
    (hGrows : n.GrowsTo n') :
    t.GrowsTo (t.setChild e n') := by
  rcases child?_eq_some_iff.mp hChild with
    ⟨xs, i, rfl, rfl, hItem⟩ | ⟨es, k, rfl, rfl, hEntry⟩
  · refine .sequence (List.length_set ..).symm ?_
    intro j x y hOld hNew
    rw [List.getElem?_set] at hNew
    split at hNew
    · rename_i hSame
      subst hSame
      simp_all
    · rw [hOld, Option.some.injEq] at hNew
      exact hNew ▸ .refl x
  · have hKey : k ∈ Mapping.keys es :=
      Mapping.mem_keys_iff.mpr
        ⟨n, Mapping.mem_of_get?_eq_some hEntry⟩
    refine .mapping ?_ ?_
    · exact (Mapping.keys_insert_of_mem hKey).symm ▸ List.prefix_rfl
    · intro i l l' v w hOld hNew
      rcases Mapping.value_insert_cases hEntry hOld hNew with
        rfl | ⟨rfl, rfl⟩
      · exact .refl w
      · exact hGrows

/- A tree grows when a node of it is replaced by a grown one. -/
theorem setAt
    {p : Path}
    (hNode : t.lookup? p = some n)
    (hGrows : n.GrowsTo n') :
    t.GrowsTo (t.setAt p n') := by
  induction hNode using lookupInduction with
  | here => exact hGrows
  | step hChild _ _ ih =>
      rw [setAt_cons hChild]
      exact .setChild hChild ih

end GrowsTo

end Tree

------------------------------------------------------------
-- Merging
------------------------------------------------------------

namespace Merge

variable (fragment : Mapping Tree) (path : Path)

/- A mapping gains entries behind its own. -/
theorem exists_intoMapping_eq_append (es : Mapping Tree) :
    ∃ extra, (intoMapping es fragment).1 = es ++ extra := by
  induction fragment generalizing es with
  | nil => exact ⟨[], (List.append_nil es).symm⟩
  | cons e fragment ih =>
      rcases e with ⟨k, v⟩
      by_cases hKey : k ∈ Mapping.keys es
      · simpa [intoMapping, Mapping.appendIfAbsent_eq, hKey]
          using ih es
      · rcases ih (es ++ [(k, v)]) with ⟨extra, hMerged⟩
        refine ⟨(k, v) :: extra, ?_⟩
        simp [intoMapping, Mapping.appendIfAbsent_eq, hKey,
          hMerged]

theorem growsTo_intoItem (t : Tree) :
    t.GrowsTo (intoItem fragment path t).tree := by
  cases t with
  | scalar s => exact .refl _
  | sequence xs => exact .refl _
  | mapping es =>
      rcases exists_intoMapping_eq_append fragment es with
        ⟨extra, hMerged⟩
      simp only [intoItem, hMerged]
      exact .append es extra

theorem intoItems_eq_map (i : Nat) (xs : List Tree) :
    (intoItems fragment path i xs).1 =
      (xs.zipIdx i).map fun (x, j) =>
        (intoItem fragment (path ++ [.index j]) x).tree := by
  induction xs generalizing i with
  | nil => rfl
  | cons x xs ih => simp [intoItems, ih]

theorem growsTo_intoNode (t : Tree) :
    t.GrowsTo (intoNode fragment path t).tree := by
  cases t with
  | scalar s => exact .refl _
  | sequence xs =>
      simp only [intoNode, intoItems_eq_map]
      refine .sequence (by simp) ?_
      intro i x y hItem hItem'
      simp only [List.getElem?_map, List.getElem?_zipIdx, hItem,
        Option.map_some, Option.some.injEq] at hItem'
      exact hItem' ▸ growsTo_intoItem ..
  | mapping es => exact growsTo_intoItem ..

theorem growsTo_intoTarget (t : Tree) :
    t.GrowsTo (intoTarget fragment t path).tree := by
  cases hNode : t.lookup? path with
  | none =>
      have hNothing : intoTarget fragment t path = ⟨t, []⟩ := by
        rw [intoTarget, hNode]
      rw [hNothing]
      exact .refl t
  | some n =>
      rw [intoTarget_eq hNode]
      exact .setAt hNode (growsTo_intoNode ..)

/-
  A tree grows when a fragment is merged into any targets.  One
  may lead nowhere at first and to a new entry in its turn.
-/
theorem growsTo_into (t : Tree) (targets : List Path) :
    t.GrowsTo (into fragment t targets).tree := by
  induction targets generalizing t with
  | nil => exact .refl t
  | cons target targets ih =>
      exact (growsTo_intoTarget fragment target t).trans (ih _)

end Merge

end ManifestRecipes
