import ManifestRecipes.Cursor
import ManifestRecipes.Expression

/-
  The nodes that an expression selects.

  Segments are applied one after the other to sets of nodes.
  A set is kept in document order and holds no node twice.

  Key definitions include:
    * `Cursor.arrange`
    * `Segment.reach`
    * `Expression.selectFrom`
    * `Expression.select`
    * `Expression.selects`
-/

namespace ManifestRecipes

------------------------------------------------------------
-- Document Order
------------------------------------------------------------

namespace Cursor

/- Order keys in lexicographic order. -/
def compareKeys : List Nat → List Nat → Ordering
  | [], [] => .eq
  | [], _ :: _ => .lt
  | _ :: _, [] => .gt
  | i :: is, j :: js => (compare i j).then (compareKeys is js)

/- Put a cursor into its place; it replaces one at the same node. -/
def place (c : Cursor) : List Cursor → List Cursor
  | [] => [c]
  | d :: ds =>
      match compareKeys c.orderKey d.orderKey with
      | .lt => c :: d :: ds
      | .eq => c :: ds
      | .gt => d :: place c ds

/- Cursors in document order, each node once. -/
def arrange (cs : List Cursor) : List Cursor :=
  cs.foldr place []

end Cursor

------------------------------------------------------------
-- Selection
------------------------------------------------------------

namespace Segment

/- The nodes that a segment leads to from one node. -/
def reach (s : Segment) (c : Cursor) : List Cursor :=
  match s with
  | .root => [Cursor.atRoot c.root]
  | .field name => (c.field? name).toList
  | .descent => c.descendants
  | .everyItem => if c.node.isSequence then c.children else []
  | .everyField => if c.node.isMapping then c.children else []
  | .index i => (c.child? (.index i)).toList

/- The nodes that a segment leads to from a set of nodes. -/
def apply (s : Segment) (cs : List Cursor) : List Cursor :=
  Cursor.arrange (cs.flatMap s.reach)

end Segment

namespace Expression

/- The nodes that segments lead to from a set of nodes. -/
def follow (ss : List Segment) (cs : List Cursor) : List Cursor :=
  ss.foldl (fun cs s => s.apply cs) cs

/- The nodes selected from a starting point. -/
def selectFrom (e : Expression) (start : Cursor) : List Cursor :=
  follow e.segments [start]

/- The nodes selected in a tree. -/
def select (e : Expression) (t : Tree) : List Cursor :=
  e.selectFrom (Cursor.atRoot t)

/- The node under a cursor is selected in its tree. -/
def selects (e : Expression) (c : Cursor) : Bool :=
  (e.select c.root).any (·.same c)

end Expression

end ManifestRecipes
