import ManifestRecipes.Cursor
import ManifestRecipes.Proofs.Tree
import Mathlib.Data.List.Lex
import Mathlib.Logic.Relation

/-
  Cursors of a tree.

  The cursors of a tree are those that steps down from its
  root lead to.  A cursor of a tree is determined by the
  positions of its steps.

  Key definitions include:
    * `Cursor.Child`
    * `Cursor.Below`
    * `Cursor.IsOf`

  Main declarations:
    * `Cursor.IsOf.eq_of_orderKey_eq`
    * `Cursor.IsOf.lookup?_path`
    * `Cursor.IsOf.eq_of_path_eq`
    * `Cursor.mem_descendants_iff`
    * `Cursor.descendants_pairwise`
    * `Cursor.IsOf.nodup_paths_descendants`
-/

namespace ManifestRecipes

namespace Cursor

------------------------------------------------------------
-- Steps Down
------------------------------------------------------------

section Descend

variable (c : Cursor) (n : Tree) (e : Path.Element) (i : Nat)

@[simp] theorem descend_node :
    (c.descend n e i).node = n := by
  rfl

@[simp] theorem descend_path :
    (c.descend n e i).path = c.path ++ [e] := by
  simp [path, descend]

@[simp] theorem descend_orderKey :
    (c.descend n e i).orderKey = c.orderKey ++ [i] := by
  simp [orderKey, descend]

end Descend

/- A cursor stands at a child of the node of another. -/
inductive Child : Cursor → Cursor → Prop where
  /- At an item of a sequence. -/
  | item {c : Cursor} {xs : List Tree} {i : Nat} {x : Tree}
      (hNode : c.node = .sequence xs)
      (hItem : xs[i]? = some x) :
      Child c (c.descend x (.index i) i)
  /- At the value of an entry of a mapping. -/
  | entry {c : Cursor} {es : Mapping Tree} {i : Nat}
      {k : String} {v : Tree}
      (hNode : c.node = .mapping es)
      (hEntry : es[i]? = some (k, v)) :
      Child c (c.descend v (.field k) i)

/- A cursor stands at the node of another or below it. -/
def Below : Cursor → Cursor → Prop :=
  Relation.ReflTransGen Child

/- The cursors of a tree. -/
def IsOf (t : Tree) (c : Cursor) : Prop :=
  (atRoot t).Below c

namespace Child

variable {c d : Cursor}

theorem root_eq (hChild : c.Child d) : d.root = c.root := by
  cases hChild <;> rfl

theorem extends_keys (hChild : c.Child d) :
    ∃ e i, d.path = c.path ++ [e] ∧
      d.orderKey = c.orderKey ++ [i] := by
  cases hChild <;>
    exact ⟨_, _, descend_path .., descend_orderKey ..⟩

/- A step down leads to the node under a child. -/
theorem child?_node
    (hChild : c.Child d)
    (hKeys : c.node.UniqueKeys) :
    ∃ e, d.path = c.path ++ [e] ∧
      c.node.child? e = some d.node := by
  cases hChild with
  | @item xs i x hNode hItem =>
      refine ⟨.index i, descend_path .., ?_⟩
      simpa [hNode, Tree.child?] using hItem
  | @entry es i k v hNode hEntry =>
      refine ⟨.field k, descend_path .., ?_⟩
      rw [hNode] at hKeys ⊢
      exact (Mapping.get?_eq_some_iff
        (Tree.uniqueKeys_mapping_iff.mp hKeys).1).mpr
          (List.mem_of_getElem? hEntry)

/- The position of a step down determines the child. -/
theorem eq_of_orderKey_eq
    (hLeft : c.Child d)
    {d' : Cursor}
    (hRight : c.Child d')
    (hKey : d.orderKey = d'.orderKey) :
    d = d' := by
  cases hLeft with
  | item hNode hItem =>
      cases hRight with
      | item hNode' hItem' =>
          simp only [descend_orderKey, List.append_cancel_left_eq,
            List.cons.injEq, and_true] at hKey
          subst hKey
          simp_all
      | entry hNode' hEntry' => simp_all
  | entry hNode hEntry =>
      cases hRight with
      | item hNode' hItem' => simp_all
      | entry hNode' hEntry' =>
          simp only [descend_orderKey, List.append_cancel_left_eq,
            List.cons.injEq, and_true] at hKey
          subst hKey
          simp_all

/- When no key comes twice, the step down determines the child. -/
theorem eq_of_path_eq
    (hLeft : c.Child d)
    {d' : Cursor}
    (hRight : c.Child d')
    (hKeys : c.node.UniqueKeys)
    (hPath : d.path = d'.path) :
    d = d' := by
  cases hLeft with
  | item hNode hItem =>
      cases hRight with
      | item hNode' hItem' =>
          simp only [descend_path, List.append_cancel_left_eq,
            List.cons.injEq, Path.Element.index.injEq, and_true]
            at hPath
          subst hPath
          simp_all
      | entry hNode' hEntry' => simp_all
  | @entry es i k v hNode hEntry =>
      cases hRight with
      | item hNode' hItem' => simp_all
      | @entry es' j l w hNode' hEntry' =>
          simp only [descend_path, List.append_cancel_left_eq,
            List.cons.injEq, Path.Element.field.injEq, and_true]
            at hPath
          subst hPath
          rw [hNode, Tree.mapping.injEq] at hNode'
          subst hNode'
          rw [hNode] at hKeys
          have hApart := (Tree.uniqueKeys_mapping_iff.mp hKeys).1
          have hLeft :=
            (Mapping.position?_get?_iff hApart).mpr hEntry
          have hRight :=
            (Mapping.position?_get?_iff hApart).mpr hEntry'
          simp_all

end Child

theorem itemCursors_eq_map
    (c : Cursor)
    (i : Nat)
    (xs : List Tree) :
    c.itemCursors i xs =
      (xs.zipIdx i).map fun (x, j) =>
        c.descend x (.index j) j := by
  induction xs generalizing i with
  | nil => rfl
  | cons x xs ih => simp [itemCursors, ih]

theorem entryCursors_eq_map
    (c : Cursor)
    (i : Nat)
    (es : Mapping Tree) :
    c.entryCursors i es =
      (es.zipIdx i).map fun (e, j) =>
        c.descend e.2 (.field e.1) j := by
  induction es generalizing i with
  | nil => rfl
  | cons e es ih =>
      rcases e with ⟨k, v⟩
      simp [entryCursors, ih]

/- All children are listed, and nothing else. -/
theorem mem_children_iff {c d : Cursor} :
    d ∈ c.children ↔ c.Child d := by
  constructor
  · intro hMember
    unfold children at hMember
    cases hNode : c.node with
    | scalar s => simp [hNode] at hMember
    | sequence xs =>
        simp only [hNode, itemCursors_eq_map, List.mem_map]
          at hMember
        rcases hMember with ⟨⟨x, i⟩, hItem, rfl⟩
        exact .item hNode (List.mem_zipIdx_iff_getElem?.mp hItem)
    | mapping es =>
        simp only [hNode, entryCursors_eq_map, List.mem_map]
          at hMember
        rcases hMember with ⟨⟨⟨k, v⟩, i⟩, hEntry, rfl⟩
        exact .entry hNode
          (List.mem_zipIdx_iff_getElem?.mp hEntry)
  · intro hChild
    cases hChild with
    | @item xs i x hNode hItem =>
        simp only [children, hNode, itemCursors_eq_map]
        exact List.mem_map.mpr
          ⟨(x, i), List.mem_zipIdx_iff_getElem?.mpr hItem, rfl⟩
    | @entry es i k v hNode hEntry =>
        simp only [children, hNode, entryCursors_eq_map]
        exact List.mem_map.mpr
          ⟨((k, v), i), List.mem_zipIdx_iff_getElem?.mpr hEntry,
            rfl⟩

------------------------------------------------------------
-- Nodes Below
------------------------------------------------------------

namespace Below

variable {c d : Cursor}

theorem root_eq (hBelow : c.Below d) : d.root = c.root := by
  induction hBelow with
  | refl => rfl
  | tail _ hChild ih => exact hChild.root_eq.trans ih

theorem extends_keys (hBelow : c.Below d) :
    ∃ p is, d.path = c.path ++ p ∧
      d.orderKey = c.orderKey ++ is := by
  induction hBelow with
  | refl => exact ⟨[], [], by simp, by simp⟩
  | tail _ hChild ih =>
      rcases ih with ⟨p, is, hPath, hKey⟩
      rcases hChild.extends_keys with ⟨e, i, hStep, hPosition⟩
      refine ⟨p ++ [e], is ++ [i], ?_, ?_⟩
      · rw [hStep, hPath, List.append_assoc]
      · rw [hPosition, hKey, List.append_assoc]

/- A node below another is the same or lies below one of its children. -/
theorem eq_or_child :
    c.Below d ↔ d = c ∨ ∃ e, c.Child e ∧ e.Below d := by
  constructor
  · intro hBelow
    rcases Relation.ReflTransGen.cases_head hBelow with
      rfl | ⟨e, hChild, hRest⟩
    · exact Or.inl rfl
    · exact Or.inr ⟨e, hChild, hRest⟩
  · rintro (rfl | ⟨e, hChild, hRest⟩)
    · exact Relation.ReflTransGen.refl
    · exact Relation.ReflTransGen.head hChild hRest

end Below

namespace IsOf

variable {t : Tree} {c d : Cursor}

theorem root_eq (hOf : c.IsOf t) : c.root = t := by
  exact Below.root_eq hOf

theorem below
    (hOf : c.IsOf t)
    (hBelow : c.Below d) :
    d.IsOf t := by
  exact Relation.ReflTransGen.trans hOf hBelow

theorem child
    (hOf : c.IsOf t)
    (hChild : c.Child d) :
    d.IsOf t := by
  exact Relation.ReflTransGen.tail hOf hChild

theorem eq_atRoot_or_child (hOf : c.IsOf t) :
    c = atRoot t ∨ ∃ b : Cursor, b.IsOf t ∧ b.Child c := by
  rcases Relation.ReflTransGen.cases_tail hOf with
    hRoot | ⟨b, hParent, hChild⟩
  · exact Or.inl hRoot
  · exact Or.inr ⟨b, hParent, hChild⟩

/- The positions of its steps determine a cursor of a tree. -/
theorem eq_of_orderKey_eq
    (hLeft : c.IsOf t)
    (hRight : d.IsOf t)
    (hKey : c.orderKey = d.orderKey) :
    c = d := by
  induction hLeft generalizing d with
  | refl =>
      rcases hRight.eq_atRoot_or_child with
        rfl | ⟨parent, _, hChild⟩
      · rfl
      · rcases hChild.extends_keys with ⟨_, i, _, hPosition⟩
        rw [hPosition] at hKey
        simp [orderKey, atRoot] at hKey
  | @tail left c _ hChild ih =>
      rcases hChild.extends_keys with ⟨_, i, _, hPosition⟩
      rcases hRight.eq_atRoot_or_child with
        rfl | ⟨right, hParent, hChild'⟩
      · rw [hPosition] at hKey
        simp [orderKey, atRoot] at hKey
      · rcases hChild'.extends_keys with ⟨_, j, _, hPosition'⟩
        have hParents : left = right := by
          apply ih hParent
          rw [hPosition, hPosition'] at hKey
          exact (List.append_inj' hKey rfl).1
        subst hParents
        exact hChild.eq_of_orderKey_eq hChild' hKey

/- A cursor stands at the node that its path leads to. -/
theorem lookup?_path
    (hOf : c.IsOf t)
    (hKeys : t.UniqueKeys) :
    t.lookup? c.path = some c.node := by
  induction hOf with
  | refl => simp [path, atRoot]
  | @tail b c _ hChild ih =>
      rcases hChild.child?_node (hKeys.lookup ih) with
        ⟨e, hPath, hStep⟩
      rw [hPath, Tree.lookup?_append, ih]
      simpa using hStep

theorem uniqueKeys_node
    (hOf : c.IsOf t)
    (hKeys : t.UniqueKeys) :
    c.node.UniqueKeys := by
  exact hKeys.lookup (hOf.lookup?_path hKeys)

/- When no key comes twice, its path determines a cursor of a tree. -/
theorem eq_of_path_eq
    (hLeft : c.IsOf t)
    (hRight : d.IsOf t)
    (hKeys : t.UniqueKeys)
    (hPath : c.path = d.path) :
    c = d := by
  induction hLeft generalizing d with
  | refl =>
      rcases hRight.eq_atRoot_or_child with
        rfl | ⟨parent, _, hChild⟩
      · rfl
      · rcases hChild.extends_keys with ⟨e, _, hStep, _⟩
        rw [hStep] at hPath
        simp [path, atRoot] at hPath
  | @tail left c hLeft hChild ih =>
      rcases hChild.extends_keys with ⟨e, _, hStep, _⟩
      rcases hRight.eq_atRoot_or_child with
        rfl | ⟨right, hParent, hChild'⟩
      · rw [hStep] at hPath
        simp [path, atRoot] at hPath
      · rcases hChild'.extends_keys with ⟨f, _, hStep', _⟩
        have hParents : left = right := by
          apply ih hParent
          rw [hStep, hStep'] at hPath
          exact (List.append_inj' hPath rfl).1
        subst hParents
        exact hChild.eq_of_path_eq hChild'
          (uniqueKeys_node hLeft hKeys) hPath

end IsOf

theorem exists_child_of_child?
    {c : Cursor}
    {e : Path.Element}
    {n : Tree}
    (hStep : c.node.child? e = some n) :
    ∃ d, c.Child d ∧ d.path = c.path ++ [e] ∧ d.node = n := by
  rcases Tree.child?_eq_some_iff.mp hStep with
    ⟨xs, i, hNode, rfl, hItem⟩ | ⟨es, k, hNode, rfl, hEntry⟩
  · exact ⟨_, .item hNode hItem, descend_path .., rfl⟩
  · rcases List.mem_iff_getElem?.mp
        (Mapping.mem_of_get?_eq_some hEntry) with ⟨i, hAt⟩
    exact ⟨_, .entry hNode hAt, descend_path .., rfl⟩

/- A path leads to a cursor below another. -/
theorem exists_below_of_lookup?
    {c : Cursor}
    {p : Path}
    {n : Tree}
    (hNode : c.node.lookup? p = some n) :
    ∃ d, c.Below d ∧ d.path = c.path ++ p ∧ d.node = n := by
  induction p generalizing c with
  | nil =>
      rw [Tree.lookup?_nil, Option.some.injEq] at hNode
      exact ⟨c, Relation.ReflTransGen.refl, by simp, hNode⟩
  | cons e p ih =>
      rw [Tree.lookup?_cons, Option.bind_eq_some_iff] at hNode
      rcases hNode with ⟨m, hStep, hRest⟩
      rcases exists_child_of_child? hStep with
        ⟨b, hChild, hPath, rfl⟩
      rcases ih hRest with ⟨d, hBelow, hPath', rfl⟩
      refine ⟨d, hBelow.head hChild, ?_, rfl⟩
      rw [hPath', hPath, List.append_assoc, List.singleton_append]

theorem exists_isOf_of_lookup?
    {t n : Tree}
    {p : Path}
    (hNode : t.lookup? p = some n) :
    ∃ c : Cursor, c.IsOf t ∧ c.path = p ∧ c.node = n := by
  rcases exists_below_of_lookup? (c := atRoot t) hNode with
    ⟨c, hOf, hPath, hFound⟩
  exact ⟨c, hOf, hPath, hFound⟩

------------------------------------------------------------
-- Descendants
------------------------------------------------------------

/- What holds of a cursor when it holds of its children holds of all. -/
theorem childInduction
    {P : Cursor → Prop}
    (step : ∀ c, (∀ d, c.Child d → P d) → P c)
    (c : Cursor) : P c := by
  obtain ⟨n, hNode⟩ : ∃ n, c.node = n := ⟨c.node, rfl⟩
  induction n using Tree.induction generalizing c with
  | scalar s =>
      apply step
      intro d hChild
      cases hChild <;> simp_all
  | sequence xs ih =>
      apply step
      intro d hChild
      cases hChild with
      | item hNode' hItem =>
          rw [hNode, Tree.sequence.injEq] at hNode'
          subst hNode'
          exact ih _ (List.mem_of_getElem? hItem) _ rfl
      | entry hNode' hEntry => simp_all
  | mapping es ih =>
      apply step
      intro d hChild
      cases hChild with
      | item hNode' hItem => simp_all
      | entry hNode' hEntry =>
          rw [hNode, Tree.mapping.injEq] at hNode'
          subst hNode'
          exact ih _ _ (List.mem_of_getElem? hEntry) _ rfl

theorem belowItems_eq
    (c : Cursor)
    (i : Nat)
    (xs : List Tree) :
    belowItems c.root c.trail c.node i xs =
      (c.itemCursors i xs).flatMap descendants := by
  induction xs generalizing i with
  | nil => rfl
  | cons x xs ih =>
      rw [belowItems, ih, itemCursors, List.flatMap_cons]
      rfl

theorem belowEntries_eq
    (c : Cursor)
    (i : Nat)
    (es : Mapping Tree) :
    belowEntries c.root c.trail c.node i es =
      (c.entryCursors i es).flatMap descendants := by
  induction es generalizing i with
  | nil => rfl
  | cons e es ih =>
      rcases e with ⟨k, v⟩
      rw [belowEntries, ih, entryCursors, List.flatMap_cons]
      rfl

/- A node comes before its children, with what is below each. -/
theorem descendants_eq (c : Cursor) :
    c.descendants = c :: c.children.flatMap descendants := by
  rcases c with ⟨root, n, trail⟩
  cases n with
  | scalar s => rfl
  | sequence xs =>
      exact congrArg _
        (belowItems_eq ⟨root, .sequence xs, trail⟩ 0 xs)
  | mapping es =>
      exact congrArg _
        (belowEntries_eq ⟨root, .mapping es, trail⟩ 0 es)

/- The descendants of a cursor are the cursors below it. -/
theorem mem_descendants_iff {c d : Cursor} :
    d ∈ c.descendants ↔ c.Below d := by
  induction c using childInduction with
  | step c ih =>
      rw [descendants_eq, List.mem_cons, Below.eq_or_child]
      apply or_congr Iff.rfl
      rw [List.mem_flatMap]
      apply exists_congr
      intro e
      rw [mem_children_iff]
      exact and_congr_right (ih e)

/- Later elements of a numbered list have greater numbers. -/
theorem zipIdx_pairwise
    {α : Type}
    (xs : List α)
    (i : Nat) :
    (xs.zipIdx i).Pairwise fun x y => x.2 < y.2 := by
  have hNumbers :
      ((xs.zipIdx i).map Prod.snd).Pairwise (· < ·) := by
    rw [List.zipIdx_map_snd]
    exact List.pairwise_lt_range'
  exact List.pairwise_map.mp hNumbers

/- Later children have greater positions. -/
theorem children_pairwise (c : Cursor) :
    c.children.Pairwise fun d e =>
      ∃ i j, i < j ∧ d.orderKey = c.orderKey ++ [i] ∧
        e.orderKey = c.orderKey ++ [j] := by
  unfold children
  cases c.node with
  | scalar s => exact List.Pairwise.nil
  | sequence xs =>
      simp only [itemCursors_eq_map, List.pairwise_map]
      refine (zipIdx_pairwise xs 0).imp fun hLt => ?_
      exact ⟨_, _, hLt, descend_orderKey ..,
        descend_orderKey ..⟩
  | mapping es =>
      simp only [entryCursors_eq_map, List.pairwise_map]
      refine (zipIdx_pairwise es 0).imp fun hLt => ?_
      exact ⟨_, _, hLt, descend_orderKey ..,
        descend_orderKey ..⟩

/-
  The descendants of a cursor stand in document order: their
  order keys increase strictly in lexicographic order.
-/
theorem descendants_pairwise (c : Cursor) :
    c.descendants.Pairwise fun d e =>
      d.orderKey < e.orderKey := by
  induction c using childInduction with
  | step c ih =>
      rw [descendants_eq, List.pairwise_cons,
        List.pairwise_flatMap]
      refine ⟨?_, fun d hChild => ih d (mem_children_iff.mp hChild),
        ?_⟩
      · intro d hMember
        rcases List.mem_flatMap.mp hMember with
          ⟨e, hChild, hBelow⟩
        rcases (mem_children_iff.mp hChild).extends_keys with
          ⟨_, i, _, hPosition⟩
        rcases (mem_descendants_iff.mp hBelow).extends_keys with
          ⟨_, is, _, hKey⟩
        have hLonger :
            c.orderKey ++ [] < c.orderKey ++ i :: is :=
          List.append_left_lt (List.nil_lt_cons i is)
        simpa [hKey, hPosition] using hLonger
      · refine c.children_pairwise.imp ?_
        rintro d e ⟨i, j, hLt, hLeft, hRight⟩ d' hBelow e' hBelow'
        rcases (mem_descendants_iff.mp hBelow).extends_keys with
          ⟨_, is, _, hKey⟩
        rcases (mem_descendants_iff.mp hBelow').extends_keys with
          ⟨_, js, _, hKey'⟩
        rw [hKey, hKey', hLeft, hRight, List.append_assoc,
          List.append_assoc]
        apply List.append_left_lt
        exact List.cons_lt_cons_iff.mpr (Or.inl hLt)

/- When no key comes twice in a tree, no path does below a cursor of it. -/
theorem IsOf.nodup_paths_descendants
    {t : Tree}
    {c : Cursor}
    (hOf : c.IsOf t)
    (hKeys : t.UniqueKeys) :
    (c.descendants.map path).Nodup := by
  apply List.pairwise_map.mpr
  apply c.descendants_pairwise.imp_of_mem
  intro d e hLeft hRight hLt hPath
  have hSame : d = e :=
    (hOf.below (mem_descendants_iff.mp hLeft)).eq_of_path_eq
      (hOf.below (mem_descendants_iff.mp hRight)) hKeys hPath
  rw [hSame] at hLt
  exact List.lt_irrefl _ hLt

/- When no key comes twice in a tree, no path does. -/
theorem nodup_paths_descendants
    {t : Tree}
    (hKeys : t.UniqueKeys) :
    ((atRoot t).descendants.map path).Nodup := by
  exact IsOf.nodup_paths_descendants .refl hKeys

end Cursor

end ManifestRecipes
