import ManifestRecipes.Tree

/-
  Cursors: a node together with the way it was reached.

  A cursor holds the root, the node under it and the steps
  between them, the nearest first.  Moving gives a new
  cursor.  The positions of the steps order cursors as their
  nodes are met from the top of the document.

  Key definitions include:
    * `Cursor`
    * `Cursor.child?`
    * `Cursor.parent?`
    * `Cursor.ancestors`
    * `Cursor.children`
    * `Cursor.descendants`
    * `Cursor.orderKey`
-/

namespace ManifestRecipes

------------------------------------------------------------
-- Cursors
------------------------------------------------------------

/- One step down: from a parent, by an element, to a position. -/
structure Step where
  parent : Tree
  element : Path.Element
  position : Nat
deriving DecidableEq

/- A node and the steps to it from the root, nearest first. -/
structure Cursor where
  root : Tree
  node : Tree
  trail : List Step
deriving DecidableEq

namespace Cursor

def atRoot (t : Tree) : Cursor :=
  ⟨t, t, []⟩

def isRoot (c : Cursor) : Bool :=
  c.trail.isEmpty

def element? (c : Cursor) : Option Path.Element :=
  c.trail.head?.map Step.element

/- The key under which the node is stored. -/
def key? (c : Cursor) : Option String :=
  c.element?.bind Path.Element.fieldName?

/- The path from the root. -/
def path (c : Cursor) : Path :=
  (c.trail.map Step.element).reverse

/- The positions of the steps from the root. -/
def orderKey (c : Cursor) : List Nat :=
  (c.trail.map Step.position).reverse

/- Cursors of one tree are at the same node. -/
def same (c d : Cursor) : Bool :=
  c.orderKey = d.orderKey

------------------------------------------------------------
-- Moves
------------------------------------------------------------

/- Step down to a child. -/
def descend
    (c : Cursor)
    (node : Tree)
    (element : Path.Element)
    (position : Nat) : Cursor :=
  ⟨c.root, node, ⟨c.node, element, position⟩ :: c.trail⟩

/- The cursor at the child that a step leads to. -/
def child? (c : Cursor) (e : Path.Element) : Option Cursor :=
  match c.node, e with
  | .mapping es, .field name => do
      let i ← Mapping.position? name es
      let v ← Mapping.get? name es
      some (c.descend v e i)
  | .sequence xs, .index i => do
      let v ← xs[i]?
      some (c.descend v e i)
  | _, _ => none

def field? (c : Cursor) (name : String) : Option Cursor :=
  c.child? (.field name)

/- The cursor at the parent. -/
def parent? (c : Cursor) : Option Cursor :=
  match c.trail with
  | [] => none
  | s :: trail => some ⟨c.root, s.parent, trail⟩

/- The cursors along a trail, nearest first. -/
def ancestorsAlong (root : Tree) : List Step → List Cursor
  | [] => []
  | s :: trail =>
      ⟨root, s.parent, trail⟩ :: ancestorsAlong root trail

/- The cursors of all ancestors, nearest first. -/
def ancestors (c : Cursor) : List Cursor :=
  ancestorsAlong c.root c.trail

def itemCursors (c : Cursor) : Nat → List Tree → List Cursor
  | _, [] => []
  | i, x :: xs =>
      c.descend x (.index i) i :: itemCursors c (i + 1) xs

def entryCursors
    (c : Cursor) : Nat → List (String × Tree) → List Cursor
  | _, [] => []
  | i, (k, v) :: es =>
      c.descend v (.field k) i :: entryCursors c (i + 1) es

/- The cursors of the children, in order. -/
def children (c : Cursor) : List Cursor :=
  match c.node with
  | .scalar _ => []
  | .sequence xs => c.itemCursors 0 xs
  | .mapping es => c.entryCursors 0 es

------------------------------------------------------------
-- Descendants
------------------------------------------------------------

mutual

/- A node and all below it, each before what is below it. -/
def below
    (root : Tree)
    (trail : List Step) : Tree → List Cursor
  | .scalar s => [⟨root, .scalar s, trail⟩]
  | .sequence xs =>
      ⟨root, .sequence xs, trail⟩ ::
        belowItems root trail (.sequence xs) 0 xs
  | .mapping es =>
      ⟨root, .mapping es, trail⟩ ::
        belowEntries root trail (.mapping es) 0 es

/- The nodes of items from a position on. -/
def belowItems
    (root : Tree)
    (trail : List Step)
    (parent : Tree)
    (i : Nat) : List Tree → List Cursor
  | [] => []
  | x :: xs =>
      below root (⟨parent, .index i, i⟩ :: trail) x ++
        belowItems root trail parent (i + 1) xs

/- The nodes of entries from a position on. -/
def belowEntries
    (root : Tree)
    (trail : List Step)
    (parent : Tree)
    (i : Nat) : List (String × Tree) → List Cursor
  | [] => []
  | (k, v) :: es =>
      below root (⟨parent, .field k, i⟩ :: trail) v ++
        belowEntries root trail parent (i + 1) es

end

/- The node under the cursor and all nodes below it. -/
def descendants (c : Cursor) : List Cursor :=
  below c.root c.trail c.node

end Cursor

end ManifestRecipes
