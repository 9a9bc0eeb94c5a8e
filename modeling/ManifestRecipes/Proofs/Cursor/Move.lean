import ManifestRecipes.Proofs.Cursor

/-
  Moves from node to node.

  A cursor carries the way to its node along, and every move
  makes the way of the new cursor from that of the old one.
  Up and down, by one step or by many, the moves never leave
  the cursors of the tree, which are told apart by their paths.

  Key definitions include:
    * `Cursor.Move`
    * `Cursor.Reached`
    * `Cursor.walk`
    * `Cursor.KeepsWay`

  Main declarations:
    * `Cursor.child?_eq_some_iff`
    * `Cursor.IsOf.child?_eq_some_iff`
    * `Cursor.IsOf.mem_ancestors_iff`
    * `Cursor.Move.isOf`
    * `Cursor.walk_eq_append`
    * `Cursor.IsOf.mem_descendants_iff_prefix`
    * `Cursor.keepsWay_of_reached`
-/

namespace ManifestRecipes

namespace Cursor

variable {t : Tree} {a b c d : Cursor} {p : Path}

------------------------------------------------------------
-- Down
------------------------------------------------------------

/-
  A step leads to the item of an index or to the value of the
  first entry of a name.
-/
theorem child?_eq_some_iff {e : Path.Element} :
    c.child? e = some b ↔
      (∃ xs i x, c.node = .sequence xs ∧ e = .index i ∧
        xs[i]? = some x ∧ b = c.descend x (.index i) i) ∨
      ∃ es k i v, c.node = .mapping es ∧ e = .field k ∧
        Mapping.position? k es = some i ∧
          es[i]? = some (k, v) ∧
            b = c.descend v (.field k) i := by
  unfold child?
  cases hNode : c.node with
  | scalar s => cases e <;> simp
  | sequence xs =>
      cases e with
      | field name => simp
      | index i =>
          simp only [Option.bind_eq_bind,
            Option.bind_eq_some_iff, Option.some.injEq]
          constructor
          · rintro ⟨x, hItem, rfl⟩
            exact Or.inl ⟨xs, i, x, rfl, rfl, hItem, rfl⟩
          · rintro (⟨_, _, x, hSequence, hIndex, hItem, rfl⟩ |
              ⟨_, _, _, _, hMapping, _⟩)
            · cases hSequence
              cases hIndex
              exact ⟨x, hItem, rfl⟩
            · cases hMapping
  | mapping es =>
      cases e with
      | index i => simp
      | field name =>
          simp only [Option.bind_eq_bind,
            Option.bind_eq_some_iff, Option.some.injEq]
          constructor
          · rintro ⟨i, hPosition, v, hGet, rfl⟩
            obtain ⟨w, hGet', hEntry⟩ :=
              Mapping.get?_of_position? hPosition
            rw [hGet, Option.some.injEq] at hGet'
            exact Or.inr ⟨es, name, i, v, rfl, rfl, hPosition,
              hGet' ▸ hEntry, rfl⟩
          · rintro (⟨_, _, _, hSequence, _⟩ |
              ⟨_, _, i, v, hMapping, hName, hPosition, hEntry, rfl⟩)
            · cases hSequence
            · cases hMapping
              cases hName
              obtain ⟨w, hGet, hEntry'⟩ :=
                Mapping.get?_of_position? hPosition
              rw [hEntry, Option.some.injEq, Prod.mk.injEq]
                at hEntry'
              exact ⟨i, hPosition, v, hEntry'.2 ▸ hGet, rfl⟩

theorem child_of_child?
    {e : Path.Element}
    (hStep : c.child? e = some b) :
    c.Child b := by
  rcases child?_eq_some_iff.mp hStep with
    ⟨xs, i, x, hNode, rfl, hItem, rfl⟩ |
      ⟨es, k, i, v, hNode, rfl, _, hEntry, rfl⟩
  · exact .item hNode hItem
  · exact .entry hNode hEntry

------------------------------------------------------------
-- Up
------------------------------------------------------------

theorem Child.parent?_eq (hChild : c.Child d) :
    d.parent? = some c := by
  cases hChild <;> rfl

/- The parent of a cursor of a tree is one, too. -/
theorem IsOf.of_parent?
    (hOf : c.IsOf t)
    (hParent : c.parent? = some d) :
    d.IsOf t := by
  rcases hOf.eq_atRoot_or_child with rfl | ⟨b, hOf', hChild⟩
  · cases hParent
  · rw [hChild.parent?_eq, Option.some.injEq] at hParent
    exact hParent ▸ hOf'

/- A step by a name leads down from a mapping. -/
theorem Child.isMapping_of_field
    {k : String}
    (hChild : c.Child d)
    (hPath : d.path = p ++ [.field k]) :
    c.node.isMapping = true := by
  cases hChild with
  | item hNode hItem => simp at hPath
  | entry hNode hEntry => rw [hNode, Tree.isMapping]

/- A step by an index leads down from a sequence. -/
theorem Child.isSequence_of_index
    {i : Nat}
    (hChild : c.Child d)
    (hPath : d.path = p ++ [.index i]) :
    c.node.isSequence = true := by
  cases hChild with
  | item hNode hItem => rw [hNode, Tree.isSequence]
  | entry hNode hEntry => simp at hPath

/- A node whose path has a last step is a child. -/
theorem IsOf.exists_parent
    {e : Path.Element}
    (hOf : c.IsOf t)
    (hPath : c.path = p ++ [e]) :
    ∃ b : Cursor, b.IsOf t ∧ b.Child c ∧ b.path = p := by
  rcases hOf.eq_atRoot_or_child with rfl | ⟨b, hParent, hChild⟩
  · simp [path, atRoot] at hPath
  · refine ⟨b, hParent, hChild, ?_⟩
    rcases hChild.extends_keys with ⟨f, _, hStep, _⟩
    exact (List.append_inj' (hStep.symm.trans hPath) rfl).1

theorem element?_eq_some_iff {e : Path.Element} :
    c.element? = some e ↔ ∃ p, c.path = p ++ [e] := by
  rcases c with ⟨root, node, trail⟩
  cases trail with
  | nil => simp [element?, path]
  | cons s trail =>
      simp [element?, path]

theorem key?_eq_some_iff {k : String} :
    c.key? = some k ↔ ∃ p, c.path = p ++ [.field k] := by
  rw [← element?_eq_some_iff, key?, Option.bind_eq_some_iff]
  constructor
  · rintro ⟨e, hElement, hName⟩
    cases e with
    | field name =>
        cases hName
        exact hElement
    | index i => cases hName
  · intro hElement
    exact ⟨_, hElement, rfl⟩

/- The parent of a node has the path without the last step. -/
theorem IsOf.parent?_path
    {e : Path.Element}
    (hOf : c.IsOf t)
    (hPath : c.path = p ++ [e])
    (hParent : c.parent? = some d) :
    d.IsOf t ∧ d.path = p := by
  rcases hOf.exists_parent hPath with ⟨b, hOf', hChild, hPath'⟩
  rw [hChild.parent?_eq, Option.some.injEq] at hParent
  exact hParent ▸ ⟨hOf', hPath'⟩

theorem Child.ancestors_eq (hChild : b.Child c) :
    c.ancestors = b :: b.ancestors := by
  cases hChild <;> rfl

/- The node and its ancestors are the nodes on the way to it. -/
theorem IsOf.mem_ancestors_iff (hOf : c.IsOf t) :
    a ∈ c :: c.ancestors ↔ a.IsOf t ∧ a.Below c := by
  induction hOf with
  | refl =>
      have hNone : (atRoot t).ancestors = [] := rfl
      rw [hNone, List.mem_singleton]
      constructor
      · rintro rfl
        exact ⟨.refl, .refl⟩
      · rintro ⟨hOf, hBelow⟩
        rcases hBelow.extends_keys with ⟨_, is, _, hKey⟩
        apply hOf.eq_of_orderKey_eq .refl
        have hEmpty : (atRoot t).orderKey = [] := rfl
        rw [hEmpty, List.nil_eq, List.append_eq_nil_iff] at hKey
        rw [hKey.1, hEmpty]
  | @tail b c hOf hChild ih =>
      rw [hChild.ancestors_eq, List.mem_cons, ih]
      constructor
      · rintro (rfl | ⟨hUp, hBelow⟩)
        · exact ⟨IsOf.child hOf hChild, .refl⟩
        · exact ⟨hUp, hBelow.tail hChild⟩
      · rintro ⟨hUp, hBelow⟩
        rcases Relation.ReflTransGen.cases_tail hBelow with
          rfl | ⟨b', hAbove, hChild'⟩
        · exact Or.inl rfl
        · have hParent : b' = b := by
            have hBoth := hChild'.parent?_eq.symm.trans
              hChild.parent?_eq
            exact Option.some.inj hBoth
          exact Or.inr ⟨hUp, hParent ▸ hAbove⟩

/- A step leads to the one node of the tree that has its path. -/
theorem IsOf.child?_eq_some_iff
    {e : Path.Element}
    (hOf : c.IsOf t)
    (hKeys : t.UniqueKeys) :
    c.child? e = some d ↔ d.IsOf t ∧ d.path = c.path ++ [e] := by
  rw [Cursor.child?_eq_some_iff]
  constructor
  · intro hStep
    rcases hStep with ⟨xs, i, x, hNode, rfl, hItem, rfl⟩ |
      ⟨es, k, i, v, hNode, rfl, _, hEntry, rfl⟩
    · exact ⟨hOf.child (.item hNode hItem), descend_path ..⟩
    · exact ⟨hOf.child (.entry hNode hEntry), descend_path ..⟩
  · intro hPlaced
    rcases hPlaced with ⟨hOf', hPath⟩
    rcases hOf'.exists_parent hPath with ⟨b, hParent, hChild, hSame⟩
    have hUnique := hOf.uniqueKeys_node hKeys
    rw [hParent.eq_of_path_eq hOf hKeys hSame] at hChild
    cases hChild with
    | @item xs i x hNode hItem =>
        rw [descend_path, List.append_cancel_left_eq,
          List.cons.injEq] at hPath
        exact Or.inl ⟨xs, i, x, hNode, hPath.1.symm, hItem, rfl⟩
    | @entry es i k v hNode hEntry =>
        rw [descend_path, List.append_cancel_left_eq,
          List.cons.injEq] at hPath
        rw [hNode] at hUnique
        have hPosition := (Mapping.position?_get?_iff
          (Tree.uniqueKeys_mapping_iff.mp hUnique).1).mpr hEntry
        exact Or.inr ⟨es, k, i, v, hNode, hPath.1.symm,
          hPosition.1, hEntry, rfl⟩

------------------------------------------------------------
-- Any Moves
------------------------------------------------------------

/- One move leads from a cursor to another. -/
inductive Move (c d : Cursor) : Prop where
  /- Down by a step. -/
  | child (e : Path.Element) (hStep : c.child? e = some d)
  /- Down by a name. -/
  | field (name : String) (hStep : c.field? name = some d)
  /- Up by one step. -/
  | parent (hParent : c.parent? = some d)
  /- To one of the children. -/
  | children (hMember : d ∈ c.children)
  /- To the node itself or anything below it. -/
  | descendants (hMember : d ∈ c.descendants)
  /- To anything above. -/
  | ancestors (hMember : d ∈ c.ancestors)

/- Moves lead to a cursor from the root of a tree. -/
def Reached (t : Tree) (c : Cursor) : Prop :=
  Relation.ReflTransGen Move (atRoot t) c

/- A move stays within the cursors of a tree. -/
theorem Move.isOf
    (hMove : c.Move d)
    (hOf : c.IsOf t) :
    d.IsOf t := by
  cases hMove with
  | child e hStep => exact hOf.child (child_of_child? hStep)
  | field name hStep => exact hOf.child (child_of_child? hStep)
  | parent hParent => exact hOf.of_parent? hParent
  | children hMember =>
      exact hOf.child (mem_children_iff.mp hMember)
  | descendants hMember =>
      exact hOf.below (mem_descendants_iff.mp hMember)
  | ancestors hMember =>
      exact (hOf.mem_ancestors_iff.mp
        (List.mem_cons_of_mem c hMember)).1

/- All moves together stay within them. -/
theorem Reached.isOf (hReached : Reached t c) : c.IsOf t := by
  induction hReached with
  | refl => exact .refl
  | tail _ hMove ih => exact hMove.isOf ih

------------------------------------------------------------
-- Nodes Below, One by One
------------------------------------------------------------

/-
  Put out the nodes of a stack and all below them.  The node
  on top is put out next, and its children take its place, the
  first of them on top.
-/
def walk (out : List Cursor) : List Cursor → List Cursor
  | [] => out
  | c :: stack => walk (out ++ [c]) (c.children ++ stack)
termination_by stack => (stack.flatMap descendants).length
decreasing_by
  -- The children count as before, and their parent is out.
  rw [List.flatMap_append, List.flatMap_cons, descendants_eq]
  simp

/-
  What is out and what is below the nodes of the stack, in
  this order, is the same at every turn.
-/
theorem walk_eq_append (out stack : List Cursor) :
    walk out stack = out ++ stack.flatMap descendants := by
  induction out, stack using walk.induct with
  | case1 out => simp [walk]
  | case2 out c stack ih =>
      rw [walk, ih, List.flatMap_append, List.flatMap_cons,
        descendants_eq c, List.append_assoc, List.singleton_append,
        List.cons_append]

/- The nodes below a cursor are those to which its path leads on. -/
theorem IsOf.mem_descendants_iff_prefix
    (hOf : c.IsOf t)
    (hKeys : t.UniqueKeys)
    {n : Tree} :
    (∃ d ∈ c.descendants, d.path = p ∧ d.node = n) ↔
      c.path <+: p ∧ t.lookup? p = some n := by
  constructor
  · intro hListed
    rcases hListed with ⟨d, hMember, rfl, rfl⟩
    have hBelow : c.Below d := mem_descendants_iff.mp hMember
    rcases hBelow.extends_keys with ⟨q, _, hPath, _⟩
    exact ⟨⟨q, hPath.symm⟩, (hOf.below hBelow).lookup?_path hKeys⟩
  · intro hLeads
    rcases hLeads with ⟨⟨q, rfl⟩, hNode⟩
    rw [Tree.lookup?_append, hOf.lookup?_path hKeys,
      Option.bind_some] at hNode
    rcases exists_below_of_lookup? hNode with
      ⟨d, hBelow, hPath, hFound⟩
    exact ⟨d, mem_descendants_iff.mpr hBelow, hPath, hFound⟩

------------------------------------------------------------
-- Cursors That Moves Lead To
------------------------------------------------------------

/- Cursors of a tree are the same when their paths are. -/
theorem IsOf.same_iff
    (hLeft : c.IsOf t)
    (hRight : d.IsOf t)
    (hKeys : t.UniqueKeys) :
    c.same d = true ↔ c.path = d.path := by
  rw [same, decide_eq_true_eq]
  constructor
  · intro hKey
    rw [hLeft.eq_of_orderKey_eq hRight hKey]
  · intro hPath
    rw [hLeft.eq_of_path_eq hRight hKeys hPath]

/-
  A cursor keeps its way in a tree.  Its path leads to its
  node, it is the parent of each of its children, and it is the
  same as another cursor that moves lead to just when their
  paths are equal.  Its descendants are the nodes to which its
  path leads on, each of them once, in the order in which a
  walk with a stack meets them and their positions increase.
-/
structure KeepsWay (t : Tree) (c : Cursor) : Prop where
  root : c.root = t
  node : t.lookup? c.path = some c.node
  parent : ∀ d, (∃ e, c.child? e = some d) ∨
      (∃ name, c.field? name = some d) ∨ d ∈ c.children →
    d.parent? = some c
  same : ∀ d, Reached t d → (c.same d = true ↔ c.path = d.path)
  walked : c.descendants = walk [] [c]
  below : ∀ p n,
    (∃ d ∈ c.descendants, d.path = p ∧ d.node = n) ↔
      c.path <+: p ∧ t.lookup? p = some n
  once : (c.descendants.map path).Nodup
  ordered : c.descendants.Pairwise fun d e =>
    d.orderKey < e.orderKey

/- Whatever moves lead to a cursor from the root, it keeps its way. -/
theorem keepsWay_of_reached
    (t : Tree)
    (c : Cursor)
    (hKeys : t.UniqueKeys)
    (hReached : Reached t c) :
    KeepsWay t c := by
  have hOf : c.IsOf t := hReached.isOf
  refine
    { root := hOf.root_eq
      node := hOf.lookup?_path hKeys
      parent := ?_
      same := fun d hOther => hOf.same_iff hOther.isOf hKeys
      walked := ?_
      below := fun p n => hOf.mem_descendants_iff_prefix hKeys
      once := hOf.nodup_paths_descendants hKeys
      ordered := c.descendants_pairwise }
  · intro d hDown
    rcases hDown with ⟨e, hStep⟩ | ⟨name, hStep⟩ | hMember
    · exact (child_of_child? hStep).parent?_eq
    · exact (child_of_child? hStep).parent?_eq
    · exact (mem_children_iff.mp hMember).parent?_eq
  · rw [walk_eq_append, List.nil_append, List.flatMap_singleton]

/-
  Far down to the second of two items, up, across to the first
  one, and back to the sequence that holds both.
-/
theorem keepsWay_of_reached_sequence :
    let item : Tree := .mapping [("b", .null), ("a", .null)]
    let t : Tree := .mapping [("x", .sequence [item, .null])]
    let c := (atRoot t).descend (.sequence [item, .null])
      (.field "x") 0
    t.UniqueKeys ∧ Reached t c ∧
    c.descendants.map path = [
      [.field "x"],
      [.field "x", .index 0],
      [.field "x", .index 0, .field "b"],
      [.field "x", .index 0, .field "a"],
      [.field "x", .index 1]] ∧
    KeepsWay t c := by
  intro item t c
  have hKeys : t.UniqueKeys := by decide
  have hReached : Reached t c := by
    let first := c.descend item (.index 0) 0
    let second := c.descend .null (.index 1) 1
    have hDown : second ∈ (atRoot t).descendants := by decide
    have hUp : second.parent? = some c := by decide
    have hAcross : first ∈ c.children := by decide
    have hBack : c ∈ first.ancestors := by decide
    exact (((Relation.ReflTransGen.single (.descendants hDown)).tail
      (.parent hUp)).tail (.children hAcross)).tail
        (.ancestors hBack)
  exact ⟨hKeys, hReached, by decide,
    keepsWay_of_reached t c hKeys hReached⟩

end Cursor

end ManifestRecipes
