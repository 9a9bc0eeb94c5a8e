import ManifestRecipes.Proofs.Cursor.Move
import ManifestRecipes.Proofs.Growth
import ManifestRecipes.Proofs.Selection

/-
  Searching trees that have grown.

  A node of a tree is found again in a grown tree, at the same
  path and at the same position.  So is every node to which a
  segment leads from it, and hence all that an expression
  selects; nothing changes its place among the others.

  Key definitions include:
    * `Cursor.GrowsTo`

  Main declarations:
    * `Cursor.GrowsTo.exists_below`
    * `Segment.exists_mem_reach`
    * `Expression.exists_mem_follow`
    * `Expression.select_survives_merge`
-/

namespace ManifestRecipes

namespace Cursor

variable {t : Tree} {c d b : Cursor}

------------------------------------------------------------
-- Cursors of Grown Trees
------------------------------------------------------------

/- A cursor stands at the same place of a grown tree. -/
structure GrowsTo (c d : Cursor) : Prop where
  root : c.root.GrowsTo d.root
  node : c.node.GrowsTo d.node
  path : d.path = c.path
  orderKey : d.orderKey = c.orderKey

namespace GrowsTo

/- Roots stand at the same place. -/
theorem atRoot
    {t' : Tree}
    (hGrows : t.GrowsTo t') :
    (atRoot t).GrowsTo (Cursor.atRoot t') := by
  exact ⟨hGrows, hGrows, rfl, rfl⟩

/- So do children that are reached by the same step. -/
theorem descend
    {v w : Tree}
    (hGrows : c.GrowsTo d)
    (hNode : v.GrowsTo w)
    (e : Path.Element)
    (i : Nat) :
    (c.descend v e i).GrowsTo (d.descend w e i) := by
  refine ⟨hGrows.root, hNode, ?_, ?_⟩
  · rw [descend_path, descend_path, hGrows.path]
  · rw [descend_orderKey, descend_orderKey, hGrows.orderKey]

theorem shape (hGrows : c.GrowsTo d) :
    d.node.isSequence = c.node.isSequence ∧
      d.node.isMapping = c.node.isMapping := by
  have hNodes := hGrows.node
  generalize c.node = n, d.node = n' at hNodes
  cases hNodes <;> exact ⟨rfl, rfl⟩

/- Every child is found again. -/
theorem exists_child
    (hGrows : c.GrowsTo d)
    (hChild : c.Child b) :
    ∃ b', d.Child b' ∧ b.GrowsTo b' := by
  have hNodes := hGrows.node
  cases hChild with
  | @item xs i x hNode hItem =>
      rw [hNode] at hNodes
      obtain ⟨ys, y, hGrown, hItem', hSame⟩ :=
        hNodes.exists_item hItem
      exact ⟨_, .item hGrown hItem',
        hGrows.descend hSame (.index i) i⟩
  | @entry es i k v hNode hEntry =>
      rw [hNode] at hNodes
      obtain ⟨fs, w, hGrown, _, hEntry', hSame⟩ :=
        hNodes.exists_entry hEntry
      exact ⟨_, .entry hGrown hEntry',
        hGrows.descend hSame (.field k) i⟩

/- Every node below is found again. -/
theorem exists_below
    (hGrows : c.GrowsTo d)
    (hBelow : c.Below b) :
    ∃ b', d.Below b' ∧ b.GrowsTo b' := by
  induction hBelow with
  | refl => exact ⟨d, .refl, hGrows⟩
  | tail _ hChild ih =>
      obtain ⟨e, hAbove, hSame⟩ := ih
      obtain ⟨b', hChild', hFound⟩ := hSame.exists_child hChild
      exact ⟨b', hAbove.tail hChild', hFound⟩

/- A step that leads to a child leads to it again. -/
theorem exists_child?
    {e : Path.Element}
    (hGrows : c.GrowsTo d)
    (hStep : c.child? e = some b) :
    ∃ b', d.child? e = some b' ∧ b.GrowsTo b' := by
  have hNodes := hGrows.node
  rcases child?_eq_some_iff.mp hStep with
    ⟨xs, i, x, hNode, rfl, hItem, rfl⟩ |
      ⟨es, k, i, v, hNode, rfl, hPosition, hEntry, rfl⟩
  · rw [hNode] at hNodes
    obtain ⟨ys, y, hGrown, hItem', hSame⟩ :=
      hNodes.exists_item hItem
    refine ⟨_, child?_eq_some_iff.mpr (Or.inl
      ⟨ys, i, y, hGrown, rfl, hItem', rfl⟩), ?_⟩
    exact hGrows.descend hSame _ _
  · rw [hNode] at hNodes
    obtain ⟨fs, w, hGrown, hKeys, hEntry', hSame⟩ :=
      hNodes.exists_entry hEntry
    have hPosition' :=
      Mapping.position?_of_prefix hKeys hPosition
    refine ⟨_, child?_eq_some_iff.mpr (Or.inr
      ⟨fs, k, i, w, hGrown, rfl, hPosition', hEntry', rfl⟩), ?_⟩
    exact hGrows.descend hSame _ _

end GrowsTo

end Cursor

------------------------------------------------------------
-- Segments
------------------------------------------------------------

namespace Segment

variable {t : Tree} {c d b : Cursor}

/- A segment reaches nodes of the same tree. -/
theorem isOf_of_mem_reach
    {s : Segment}
    (hOf : c.IsOf t)
    (hReach : b ∈ s.reach c) :
    b.IsOf t := by
  cases s with
  | root =>
      rw [reach, List.mem_singleton, hOf.root_eq] at hReach
      exact hReach ▸ .refl
  | field name =>
      exact hOf.child
        (Cursor.child_of_child? (Option.mem_toList.mp hReach))
  | descent =>
      exact hOf.below (Cursor.mem_descendants_iff.mp hReach)
  | everyItem | everyField =>
      rw [reach] at hReach
      split at hReach
      · exact hOf.child (Cursor.mem_children_iff.mp hReach)
      · cases hReach
  | index i =>
      exact hOf.child
        (Cursor.child_of_child? (Option.mem_toList.mp hReach))

/- What a segment reaches is reached again in a grown tree. -/
theorem exists_mem_reach
    {s : Segment}
    (hGrows : c.GrowsTo d)
    (hReach : b ∈ s.reach c) :
    ∃ b' ∈ s.reach d, b.GrowsTo b' := by
  cases s with
  | root =>
      rw [reach, List.mem_singleton] at hReach
      exact ⟨_, List.mem_singleton_self _,
        hReach ▸ .atRoot hGrows.root⟩
  | field name =>
      obtain ⟨b', hStep, hFound⟩ :=
        hGrows.exists_child? (Option.mem_toList.mp hReach)
      exact ⟨b', Option.mem_toList.mpr hStep, hFound⟩
  | descent =>
      obtain ⟨b', hBelow, hFound⟩ :=
        hGrows.exists_below (Cursor.mem_descendants_iff.mp hReach)
      exact ⟨b', Cursor.mem_descendants_iff.mpr hBelow, hFound⟩
  | everyItem | everyField =>
      simp only [reach, hGrows.shape] at hReach ⊢
      split at hReach
      · rename_i hShape
        obtain ⟨b', hChild, hFound⟩ :=
          hGrows.exists_child (Cursor.mem_children_iff.mp hReach)
        rw [if_pos hShape]
        exact ⟨b', Cursor.mem_children_iff.mpr hChild, hFound⟩
      · cases hReach
  | index i =>
      obtain ⟨b', hStep, hFound⟩ :=
        hGrows.exists_child? (Option.mem_toList.mp hReach)
      exact ⟨b', Option.mem_toList.mpr hStep, hFound⟩

/- A segment yields from nodes what it reaches from any of them. -/
theorem mem_apply_iff_reached
    {s : Segment}
    {cs : List Cursor}
    (hCursors : ∀ c ∈ cs, c.IsOf t) :
    b ∈ s.apply cs ↔ ∃ c ∈ cs, b ∈ s.reach c := by
  have hReached : ∀ b ∈ cs.flatMap s.reach, b.IsOf t := by
    intro b hMember
    rcases List.mem_flatMap.mp hMember with ⟨c, hCursor, hReach⟩
    exact isOf_of_mem_reach (hCursors c hCursor) hReach
  rw [apply, Cursor.mem_arrange_iff hReached, List.mem_flatMap]

/- What a segment yields from nodes is of the same tree. -/
theorem isOf_of_mem_apply
    {s : Segment}
    {cs : List Cursor}
    (hCursors : ∀ c ∈ cs, c.IsOf t)
    (hMember : b ∈ s.apply cs) :
    b.IsOf t := by
  obtain ⟨c, hCursor, hReach⟩ :=
    (mem_apply_iff_reached hCursors).mp hMember
  exact isOf_of_mem_reach (hCursors c hCursor) hReach

end Segment

------------------------------------------------------------
-- Expressions
------------------------------------------------------------

namespace Expression

variable {t t' : Tree}

/- What segments yield is yielded again from nodes of a grown tree. -/
theorem exists_mem_follow
    {ss : List Segment}
    {cs ds : List Cursor}
    (hCursors : ∀ c ∈ cs, c.IsOf t)
    (hCursors' : ∀ d ∈ ds, d.IsOf t')
    (hGrows : ∀ c ∈ cs, ∃ d ∈ ds, c.GrowsTo d) :
    ∀ c ∈ follow ss cs, ∃ d ∈ follow ss ds, c.GrowsTo d := by
  induction ss generalizing cs ds with
  | nil => exact hGrows
  | cons s ss ih =>
      refine ih (fun _ => Segment.isOf_of_mem_apply hCursors)
        (fun _ => Segment.isOf_of_mem_apply hCursors') ?_
      intro b hMember
      obtain ⟨c, hCursor, hReach⟩ :=
        (Segment.mem_apply_iff_reached hCursors).mp hMember
      obtain ⟨d, hCursor', hSame⟩ := hGrows c hCursor
      obtain ⟨b', hReach', hFound⟩ :=
        Segment.exists_mem_reach hSame hReach
      exact ⟨b', (Segment.mem_apply_iff_reached hCursors').mpr
        ⟨d, hCursor', hReach'⟩, hFound⟩

theorem exists_mem_select
    (e : Expression)
    (hGrows : t.GrowsTo t') :
    ∀ c ∈ e.select t, ∃ d ∈ e.select t', c.GrowsTo d := by
  have hRoots : ∀ t : Tree, ∀ c ∈ [Cursor.atRoot t], c.IsOf t := by
    intro t c hMember
    exact List.mem_singleton.mp hMember ▸ .refl
  apply exists_mem_follow (hRoots t) (hRoots t')
  intro c hMember
  rw [List.mem_singleton] at hMember
  exact ⟨_, List.mem_singleton_self _, hMember ▸ .atRoot hGrows⟩

/-
  Merging hides nothing from a search.  Whatever the targets
  are, each node that an expression selects in a tree is
  selected at its path and position in the merged tree, and
  the selected paths stand among those of the merged tree in
  the order in which they stood before.
-/
theorem select_survives_merge
    (e : Expression)
    (fragment : Mapping Tree)
    (t : Tree)
    (targets : List Path) :
    (∀ c ∈ e.select t,
      ∃ d ∈ e.select (Merge.into fragment t targets).tree,
        c.GrowsTo d) ∧
    ((e.select t).map Cursor.path).Sublist
      ((e.select (Merge.into fragment t targets).tree).map
        Cursor.path) := by
  have hFound :=
    e.exists_mem_select (Merge.growsTo_into fragment t targets)
  refine ⟨hFound, ?_⟩
  generalize (Merge.into fragment t targets).tree = t' at hFound
  let place := fun c : Cursor => (c.path, c.orderKey)
  have hOrdered : ∀ t : Tree, ((e.select t).map place).Pairwise
      fun p q => p.2 < q.2 :=
    fun t => List.pairwise_map.mpr (selectFrom_pairwise e _)
  have hPlaces : (e.select t).map place ⊆ (e.select t').map place := by
    intro p hMember
    rcases List.mem_map.mp hMember with ⟨c, hCursor, rfl⟩
    obtain ⟨d, hCursor', hGrows⟩ := hFound c hCursor
    refine List.mem_map.mpr ⟨d, hCursor', ?_⟩
    simp only [place, hGrows.path, hGrows.orderKey]
  have hSublist :=
    Cursor.sublist_of_ordered hPlaces (hOrdered t) (hOrdered t')
  simpa [place, Function.comp_def] using hSublist.map Prod.fst

end Expression

end ManifestRecipes
