import ManifestRecipes.Expression.Selection
import ManifestRecipes.Proofs.Cursor
import Mathlib.Data.List.Sort

/-
  What path expressions select.

  A segment is read as a relation between nodes, and segments
  one after the other as the composition of their relations.
  Selection yields the nodes so related to its starting point
  in document order.

  Key definitions include:
    * `Segment.Leads`
    * `Expression.Reaches`
    * `Expression.SelectsExactly`

  Main declarations:
    * `Cursor.arrange_pairwise`
    * `Segment.mem_reach_iff`
    * `Expression.mem_follow_iff`
    * `Expression.follow_pairwise`
    * `Expression.selectFrom_exact`
-/

namespace ManifestRecipes

------------------------------------------------------------
-- Document Order
------------------------------------------------------------

namespace Cursor

/- Comparing order keys decides their lexicographic order. -/
theorem compareKeys_eq_lt_iff {is js : List Nat} :
    compareKeys is js = .lt ↔ is < js := by
  induction is generalizing js with
  | nil => cases js <;> simp [compareKeys]
  | cons i is ih =>
      cases js with
      | nil => simp [compareKeys]
      | cons j js =>
          rw [compareKeys, Ordering.then_eq_lt, ih,
            List.cons_lt_cons_iff, Nat.compare_eq_lt,
            Nat.compare_eq_eq]

/- Only equal order keys compare as equal. -/
theorem compareKeys_eq_eq_iff {is js : List Nat} :
    compareKeys is js = .eq ↔ is = js := by
  induction is generalizing js with
  | nil => cases js <;> simp [compareKeys]
  | cons i is ih =>
      cases js with
      | nil => simp [compareKeys]
      | cons j js =>
          rw [compareKeys, Ordering.then_eq_eq, ih,
            Nat.compare_eq_eq, List.cons.injEq]

/- Comparing order keys the other way decides the converse. -/
theorem compareKeys_eq_gt_iff {is js : List Nat} :
    compareKeys is js = .gt ↔ js < is := by
  induction is generalizing js with
  | nil => cases js <;> simp [compareKeys]
  | cons i is ih =>
      cases js with
      | nil => simp [compareKeys]
      | cons j js =>
          rw [compareKeys, Ordering.then_eq_gt, ih,
            List.cons_lt_cons_iff, Nat.compare_eq_gt,
            Nat.compare_eq_eq, eq_comm]

variable {t : Tree} {c d : Cursor} {cs : List Cursor}

/- A placed cursor joins the others, none of which is lost. -/
theorem mem_place_iff
    (hCursor : c.IsOf t)
    (hCursors : ∀ d ∈ cs, d.IsOf t) :
    d ∈ place c cs ↔ d = c ∨ d ∈ cs := by
  induction cs with
  | nil => simp [place]
  | cons b cs ih =>
      rw [List.forall_mem_cons] at hCursors
      unfold place
      cases hOrder : compareKeys c.orderKey b.orderKey with
      | lt => simp
      | eq =>
          have hSame : c = b :=
            hCursor.eq_of_orderKey_eq hCursors.1
              (compareKeys_eq_eq_iff.mp hOrder)
          simp [hSame]
      | gt =>
          simp only [List.mem_cons, ih hCursors.2]
          tauto

/- A placed cursor brings no other order key than its own. -/
theorem orderKey_of_mem_place
    (hMember : d ∈ place c cs) :
    d.orderKey = c.orderKey ∨ d ∈ cs := by
  induction cs with
  | nil => simp_all [place]
  | cons b cs ih =>
      unfold place at hMember
      split at hMember <;>
        rcases List.mem_cons.mp hMember with rfl | hLater
      · exact Or.inl rfl
      · exact Or.inr hLater
      · exact Or.inl rfl
      · exact Or.inr (List.mem_cons_of_mem b hLater)
      · exact Or.inr List.mem_cons_self
      · exact (ih hLater).imp_right (List.mem_cons_of_mem b)

/- Placing a cursor keeps the order. -/
theorem place_pairwise
    (c : Cursor)
    (hOrdered : cs.Pairwise fun d e => d.orderKey < e.orderKey) :
    (place c cs).Pairwise fun d e =>
      d.orderKey < e.orderKey := by
  induction cs with
  | nil => simp [place]
  | cons b cs ih =>
      rw [List.pairwise_cons] at hOrdered
      unfold place
      cases hOrder : compareKeys c.orderKey b.orderKey with
      | lt =>
          have hLt := compareKeys_eq_lt_iff.mp hOrder
          refine List.pairwise_cons.mpr
            ⟨?_, List.pairwise_cons.mpr hOrdered⟩
          intro d hMember
          rcases List.mem_cons.mp hMember with rfl | hLater
          · exact hLt
          · exact hLt.trans (hOrdered.1 d hLater)
      | eq =>
          have hEq := compareKeys_eq_eq_iff.mp hOrder
          exact List.pairwise_cons.mpr
            ⟨hEq ▸ hOrdered.1, hOrdered.2⟩
      | gt =>
          have hGt := compareKeys_eq_gt_iff.mp hOrder
          refine List.pairwise_cons.mpr
            ⟨?_, ih hOrdered.2⟩
          intro d hMember
          rcases orderKey_of_mem_place hMember with
            hSame | hLater
          · exact hSame ▸ hGt
          · exact hOrdered.1 d hLater

/- Arranging cursors loses none of them. -/
theorem mem_arrange_iff
    (hCursors : ∀ c ∈ cs, c.IsOf t) :
    d ∈ arrange cs ↔ d ∈ cs := by
  induction cs generalizing d with
  | nil => rfl
  | cons c cs ih =>
      rw [List.forall_mem_cons] at hCursors
      have hRest : ∀ d ∈ arrange cs, d.IsOf t :=
        fun d hMember =>
          hCursors.2 d ((ih hCursors.2).mp hMember)
      change d ∈ place c (arrange cs) ↔ _
      rw [mem_place_iff hCursors.1 hRest, ih hCursors.2,
        List.mem_cons]

/- Arranged cursors stand in document order. -/
theorem arrange_pairwise (cs : List Cursor) :
    (arrange cs).Pairwise fun d e =>
      d.orderKey < e.orderKey := by
  induction cs with
  | nil => exact List.Pairwise.nil
  | cons c cs ih => exact place_pairwise c ih

/- Ordered elements stand in this order among ordered others. -/
theorem sublist_of_ordered
    {α : Type}
    {key : α → List Nat}
    {xs ys : List α}
    (hSubset : xs ⊆ ys)
    (hOrdered : xs.Pairwise fun x y => key x < key y)
    (hOrdered' : ys.Pairwise fun x y => key x < key y) :
    xs.Sublist ys := by
  have hNodup : xs.Nodup := by
    refine hOrdered.imp ?_
    rintro x _ hLt rfl
    exact lt_irrefl _ hLt
  have : Std.Antisymm fun x y : α => key x < key y :=
    ⟨fun _ _ hLeft hRight => (lt_asymm hLeft hRight).elim⟩
  exact List.sublist_of_subperm_of_pairwise
    (List.subperm_of_subset hNodup hSubset) hOrdered hOrdered'

end Cursor

------------------------------------------------------------
-- Reading of Segments
------------------------------------------------------------

/- The nodes that a segment leads to from a node. -/
inductive Segment.Leads : Segment → Cursor → Cursor → Prop where
  /- The root, from everywhere. -/
  | root {c : Cursor} :
      Leads .root c (Cursor.atRoot c.root)
  /- The value of the entry of a name in a mapping. -/
  | field {c : Cursor} {es : Mapping Tree} {i : Nat}
      {name : String} {v : Tree}
      (hNode : c.node = .mapping es)
      (hEntry : es[i]? = some (name, v)) :
      Leads (.field name) c (c.descend v (.field name) i)
  /- The node itself and every node below it. -/
  | descent {c d : Cursor}
      (hBelow : c.Below d) :
      Leads .descent c d
  /- Every item of a sequence. -/
  | everyItem {c : Cursor} {xs : List Tree} {i : Nat} {x : Tree}
      (hNode : c.node = .sequence xs)
      (hItem : xs[i]? = some x) :
      Leads .everyItem c (c.descend x (.index i) i)
  /- Every value of a mapping. -/
  | everyField {c : Cursor} {es : Mapping Tree} {i : Nat}
      {k : String} {v : Tree}
      (hNode : c.node = .mapping es)
      (hEntry : es[i]? = some (k, v)) :
      Leads .everyField c (c.descend v (.field k) i)
  /- The item of an index in a sequence. -/
  | index {c : Cursor} {xs : List Tree} {i : Nat} {x : Tree}
      (hNode : c.node = .sequence xs)
      (hItem : xs[i]? = some x) :
      Leads (.index i) c (c.descend x (.index i) i)

/- Segments lead from a node to another, one after the other. -/
inductive Expression.Reaches :
    List Segment → Cursor → Cursor → Prop where
  /- No segment leads away. -/
  | stay (c : Cursor) : Reaches [] c c
  /- The first segment leads to where the others set out. -/
  | step {s : Segment} {ss : List Segment} {b c d : Cursor}
      (hFirst : s.Leads b c)
      (hRest : Reaches ss c d) :
      Reaches (s :: ss) b d

namespace Segment

/- A segment leads to nodes of the same tree. -/
theorem Leads.isOf
    {s : Segment}
    {t : Tree}
    {c d : Cursor}
    (hLeads : s.Leads c d)
    (hCursor : c.IsOf t) :
    d.IsOf t := by
  cases hLeads with
  | root => exact hCursor.root_eq ▸ Relation.ReflTransGen.refl
  | field hNode hEntry => exact hCursor.child (.entry hNode hEntry)
  | descent hBelow => exact hCursor.below hBelow
  | everyItem hNode hItem => exact hCursor.child (.item hNode hItem)
  | everyField hNode hEntry =>
      exact hCursor.child (.entry hNode hEntry)
  | index hNode hItem => exact hCursor.child (.item hNode hItem)

/- The child for an entry's name is at the entry's position. -/
theorem mem_field_iff
    {c d : Cursor}
    {name : String}
    (hKeys : c.node.UniqueKeys) :
    d ∈ (c.field? name).toList ↔
      ∃ es i v, c.node = .mapping es ∧
        es[i]? = some (name, v) ∧
          d = c.descend v (.field name) i := by
  rw [Option.mem_toList]
  unfold Cursor.field? Cursor.child?
  cases hNode : c.node with
  | scalar s => simp
  | sequence xs => simp
  | mapping es =>
      rw [hNode] at hKeys
      have hEntries := (Tree.uniqueKeys_mapping_iff.mp hKeys).1
      simp only [Option.bind_eq_bind,
        Option.bind_eq_some_iff, Option.some.injEq,
        Tree.mapping.injEq]
      constructor
      · rintro ⟨i, hPosition, v, hGet, rfl⟩
        exact ⟨es, i, v, rfl,
          (Mapping.position?_get?_iff hEntries).mp
            ⟨hPosition, hGet⟩, rfl⟩
      · rintro ⟨_, i, v, rfl, hEntry, rfl⟩
        have hFound :=
          (Mapping.position?_get?_iff hEntries).mpr hEntry
        exact ⟨i, hFound.1, v, hFound.2, rfl⟩

/- The child for an index is the item there. -/
theorem mem_index_iff
    {c d : Cursor}
    {i : Nat} :
    d ∈ (c.child? (.index i)).toList ↔
      ∃ xs x, c.node = .sequence xs ∧ xs[i]? = some x ∧
        d = c.descend x (.index i) i := by
  rw [Option.mem_toList]
  unfold Cursor.child?
  cases hNode : c.node with
  | scalar s => simp
  | mapping es => simp
  | sequence xs =>
      simp only [Option.bind_eq_bind,
        Option.bind_eq_some_iff, Option.some.injEq,
        Tree.sequence.injEq]
      constructor
      · rintro ⟨x, hItem, rfl⟩
        exact ⟨xs, x, rfl, hItem, rfl⟩
      · rintro ⟨_, x, rfl, hItem, rfl⟩
        exact ⟨x, hItem, rfl⟩

/- A segment reaches exactly the nodes it leads to. -/
theorem mem_reach_iff
    {s : Segment}
    {c d : Cursor}
    (hKeys : c.node.UniqueKeys) :
    d ∈ s.reach c ↔ s.Leads c d := by
  cases s with
  | root =>
      rw [reach, List.mem_singleton]
      constructor
      · rintro rfl
        exact .root
      · rintro ⟨⟩
        rfl
  | field name =>
      rw [reach, mem_field_iff hKeys]
      constructor
      · rintro ⟨es, i, v, hNode, hEntry, rfl⟩
        exact .field hNode hEntry
      · intro hLeads
        cases hLeads with
        | field hNode hEntry =>
            exact ⟨_, _, _, hNode, hEntry, rfl⟩
  | descent =>
      rw [reach, Cursor.mem_descendants_iff]
      constructor
      · exact .descent
      · intro hLeads
        cases hLeads with
        | descent hBelow => exact hBelow
  | everyItem =>
      rw [reach]
      constructor
      · intro hMember
        cases hNode : c.node with
        | scalar s => simp [hNode, Tree.isSequence] at hMember
        | mapping es => simp [hNode, Tree.isSequence] at hMember
        | sequence xs =>
            simp only [hNode, Tree.isSequence, if_true,
              Cursor.mem_children_iff] at hMember
            cases hMember with
            | item hNode' hItem => exact .everyItem hNode' hItem
            | entry hNode' _ => simp [hNode] at hNode'
      · intro hLeads
        cases hLeads with
        | everyItem hNode hItem =>
            simp only [hNode, Tree.isSequence, if_true]
            exact Cursor.mem_children_iff.mpr
              (.item hNode hItem)
  | everyField =>
      rw [reach]
      constructor
      · intro hMember
        cases hNode : c.node with
        | scalar s => simp [hNode, Tree.isMapping] at hMember
        | sequence xs => simp [hNode, Tree.isMapping] at hMember
        | mapping es =>
            simp only [hNode, Tree.isMapping, if_true,
              Cursor.mem_children_iff] at hMember
            cases hMember with
            | item hNode' _ => simp [hNode] at hNode'
            | entry hNode' hEntry =>
                exact .everyField hNode' hEntry
      · intro hLeads
        cases hLeads with
        | everyField hNode hEntry =>
            simp only [hNode, Tree.isMapping, if_true]
            exact Cursor.mem_children_iff.mpr
              (.entry hNode hEntry)
  | index i =>
      rw [reach, mem_index_iff]
      constructor
      · rintro ⟨xs, x, hNode, hItem, rfl⟩
        exact .index hNode hItem
      · intro hLeads
        cases hLeads with
        | index hNode hItem =>
            exact ⟨_, _, hNode, hItem, rfl⟩

/- Applying a segment to nodes yields what it leads to from any. -/
theorem mem_apply_iff
    {s : Segment}
    {t : Tree}
    {d : Cursor}
    {cs : List Cursor}
    (hKeys : t.UniqueKeys)
    (hCursors : ∀ c ∈ cs, c.IsOf t) :
    d ∈ s.apply cs ↔ ∃ c ∈ cs, s.Leads c d := by
  have hReach :
      ∀ c ∈ cs, ∀ d, d ∈ s.reach c ↔ s.Leads c d :=
    fun c hMember _ =>
      mem_reach_iff ((hCursors c hMember).uniqueKeys_node hKeys)
  have hReached : ∀ d ∈ cs.flatMap s.reach, d.IsOf t := by
    intro d hMember
    rcases List.mem_flatMap.mp hMember with ⟨c, hCursor, hReached⟩
    exact ((hReach c hCursor d).mp hReached).isOf
      (hCursors c hCursor)
  rw [apply, Cursor.mem_arrange_iff hReached, List.mem_flatMap]
  constructor
  · rintro ⟨c, hCursor, hMember⟩
    exact ⟨c, hCursor, (hReach c hCursor d).mp hMember⟩
  · rintro ⟨c, hCursor, hLeads⟩
    exact ⟨c, hCursor, (hReach c hCursor d).mpr hLeads⟩

end Segment

------------------------------------------------------------
-- Selection
------------------------------------------------------------

namespace Expression

variable {t : Tree} {ss : List Segment} {c d : Cursor}

theorem Reaches.isOf
    (hReaches : Reaches ss c d)
    (hCursor : c.IsOf t) :
    d.IsOf t := by
  induction hReaches with
  | stay => exact hCursor
  | step hFirst _ ih => exact ih (hFirst.isOf hCursor)

/- Following segments yields what they lead to from any node. -/
theorem mem_follow_iff
    {cs : List Cursor}
    (hKeys : t.UniqueKeys)
    (hCursors : ∀ c ∈ cs, c.IsOf t) :
    d ∈ follow ss cs ↔ ∃ c ∈ cs, Reaches ss c d := by
  induction ss generalizing cs with
  | nil =>
      constructor
      · intro hMember
        exact ⟨d, hMember, .stay d⟩
      · rintro ⟨_, hMember, ⟨⟩⟩
        exact hMember
  | cons s ss ih =>
      have hApplied : ∀ c ∈ s.apply cs, c.IsOf t := by
        intro c hMember
        rcases (Segment.mem_apply_iff hKeys hCursors).mp hMember
          with ⟨b, hCursor, hLeads⟩
        exact hLeads.isOf (hCursors b hCursor)
      change d ∈ follow ss (s.apply cs) ↔ _
      rw [ih hApplied]
      constructor
      · rintro ⟨c, hMember, hRest⟩
        rcases (Segment.mem_apply_iff hKeys hCursors).mp hMember
          with ⟨b, hCursor, hLeads⟩
        exact ⟨b, hCursor, .step hLeads hRest⟩
      · rintro ⟨b, hCursor, hReaches⟩
        cases hReaches with
        | step hFirst hRest =>
            exact ⟨_, (Segment.mem_apply_iff hKeys hCursors).mpr
              ⟨b, hCursor, hFirst⟩, hRest⟩

/- Following segments from ordered nodes yields ordered nodes. -/
theorem follow_pairwise
    (ss : List Segment)
    {cs : List Cursor}
    (hOrdered : cs.Pairwise fun d e => d.orderKey < e.orderKey) :
    (follow ss cs).Pairwise fun d e =>
      d.orderKey < e.orderKey := by
  induction ss generalizing cs with
  | nil => exact hOrdered
  | cons s ss ih => exact ih (Cursor.arrange_pairwise _)

/-
  The nodes selected from a node are those that the segments
  lead to from it.
-/
theorem mem_selectFrom_iff
    {e : Expression}
    (hKeys : t.UniqueKeys)
    (hCursor : c.IsOf t) :
    d ∈ e.selectFrom c ↔ Reaches e.segments c d := by
  rw [selectFrom, mem_follow_iff hKeys]
  · simp
  · simpa using hCursor

theorem selectFrom_pairwise
    (e : Expression)
    (c : Cursor) :
    (e.selectFrom c).Pairwise fun d e =>
      d.orderKey < e.orderKey := by
  exact follow_pairwise e.segments (List.pairwise_singleton ..)

/- Ordered nodes of a tree are met in this order on the way through it. -/
theorem sublist_descendants
    {cs : List Cursor}
    (hOrdered : cs.Pairwise fun d e => d.orderKey < e.orderKey)
    (hCursors : ∀ c ∈ cs, c.IsOf t) :
    cs.Sublist (Cursor.atRoot t).descendants := by
  exact Cursor.sublist_of_ordered
    (fun c hMember =>
      Cursor.mem_descendants_iff.mpr (hCursors c hMember))
    hOrdered (Cursor.descendants_pairwise _)

/-
  From a node of a tree an expression yields the nodes that its
  segments lead to, in strictly increasing document order, which
  is the order in which the way through the tree meets them.  A
  node is selected in its tree when the segments lead to it from
  the root.
-/
structure SelectsExactly
    (e : Expression)
    (t : Tree)
    (start : Cursor) : Prop where
  mem_iff : ∀ c, c ∈ e.selectFrom start ↔
    Reaches e.segments start c
  ordered : (e.selectFrom start).Pairwise
    fun c d => c.orderKey < d.orderKey
  sublist : (e.selectFrom start).Sublist
    (Cursor.atRoot t).descendants
  selects_iff : ∀ c, c.IsOf t →
    (e.selects c = true ↔ Reaches e.segments (Cursor.atRoot t) c)

/- Selection is exact in a tree with unique keys. -/
theorem selectFrom_exact
    (e : Expression)
    (t : Tree)
    (start : Cursor)
    (hKeys : t.UniqueKeys)
    (hStart : start.IsOf t) :
    e.SelectsExactly t start := by
  refine ⟨fun c => mem_selectFrom_iff hKeys hStart,
    selectFrom_pairwise e start, ?_, ?_⟩
  · refine sublist_descendants (selectFrom_pairwise e start) ?_
    intro c hMember
    exact ((mem_selectFrom_iff hKeys hStart).mp hMember).isOf
      hStart
  · intro c hCursor
    have hRoot : (Cursor.atRoot t).IsOf t :=
      Relation.ReflTransGen.refl
    rw [selects, List.any_eq_true, hCursor.root_eq, select]
    constructor
    · rintro ⟨d, hMember, hSame⟩
      have hReaches :=
        (mem_selectFrom_iff hKeys hRoot).mp hMember
      have hEq : d = c :=
        (hReaches.isOf hRoot).eq_of_orderKey_eq hCursor
          (by simpa [Cursor.same] using hSame)
      exact hEq ▸ hReaches
    · intro hReaches
      exact ⟨c, (mem_selectFrom_iff hKeys hRoot).mpr hReaches,
        by simp [Cursor.same]⟩

/-
  The nodes below the specs that are met from within a document,
  where one descent reaches nodes that another has reached.
-/
theorem selectFrom_exact_nested :
    let e := ofSegments [.descent, .field "spec", .descent]
    let inner : Tree :=
      .mapping [("spec", .mapping [("spec", .string "leaf")])]
    let t : Tree := .mapping [("kind", .null), ("job", inner)]
    let start := (Cursor.atRoot t).descend inner (.field "job") 1
    t.UniqueKeys ∧ start.IsOf t ∧ e.SelectsExactly t start ∧
    (e.selectFrom start).map Cursor.path =
      [[.field "job", .field "spec"],
        [.field "job", .field "spec", .field "spec"]] := by
  intro e inner t start
  have hKeys : t.UniqueKeys := by decide
  have hStart : start.IsOf t :=
    Relation.ReflTransGen.single (.entry rfl rfl)
  exact ⟨hKeys, hStart, selectFrom_exact e t start hKeys hStart,
    by decide +kernel⟩

end Expression

end ManifestRecipes
