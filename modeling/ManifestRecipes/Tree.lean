import ManifestRecipes.Scalar
import ManifestRecipes.Mapping
import ManifestRecipes.Path

/-
  Document trees.

  A node is a scalar, a sequence or a mapping.  Nodes are
  reached by paths from the root; a node is replaced by
  rebuilding the nodes on the way to it.

  Key definitions include:
    * `Tree`
    * `Tree.child?`
    * `Tree.lookup?`
    * `Tree.replaceAt?`
    * `Tree.UniqueKeys`
-/

namespace ManifestRecipes

------------------------------------------------------------
-- Trees
------------------------------------------------------------

/- A document or a part of one. -/
inductive Tree where
  | scalar (s : Scalar)
  | sequence (items : List Tree)
  | mapping (entries : List (String × Tree))
deriving Repr

namespace Tree

mutual

/- Equality of trees is decided node by node. -/
def decideEq : (a b : Tree) → Decidable (a = b)
  | .scalar s, .scalar t =>
      if h : s = t then isTrue (by rw [h])
      else isFalse (by simp [h])
  | .sequence xs, .sequence ys =>
      match decideItems xs ys with
      | isTrue h => isTrue (by rw [h])
      | isFalse h => isFalse (by simp [h])
  | .mapping xs, .mapping ys =>
      match decideEntries xs ys with
      | isTrue h => isTrue (by rw [h])
      | isFalse h => isFalse (by simp [h])
  | .scalar _, .sequence _ => isFalse (by simp)
  | .scalar _, .mapping _ => isFalse (by simp)
  | .sequence _, .scalar _ => isFalse (by simp)
  | .sequence _, .mapping _ => isFalse (by simp)
  | .mapping _, .scalar _ => isFalse (by simp)
  | .mapping _, .sequence _ => isFalse (by simp)

/- Equality of items. -/
def decideItems : (a b : List Tree) → Decidable (a = b)
  | [], [] => isTrue rfl
  | [], _ :: _ => isFalse (by simp)
  | _ :: _, [] => isFalse (by simp)
  | a :: as, b :: bs =>
      match decideEq a b, decideItems as bs with
      | isTrue h, isTrue g => isTrue (by rw [h, g])
      | isFalse h, _ => isFalse (by simp [h])
      | _, isFalse g => isFalse (by simp [g])

/- Equality of entries. -/
def decideEntries :
    (a b : List (String × Tree)) → Decidable (a = b)
  | [], [] => isTrue rfl
  | [], _ :: _ => isFalse (by simp)
  | _ :: _, [] => isFalse (by simp)
  | (k, a) :: as, (l, b) :: bs =>
      match decEq k l, decideEq a b, decideEntries as bs with
      | isTrue f, isTrue h, isTrue g =>
          isTrue (by rw [f, h, g])
      | isFalse f, _, _ => isFalse (by simp [f])
      | _, isFalse h, _ => isFalse (by simp [h])
      | _, _, isFalse g => isFalse (by simp [g])

end

instance : DecidableEq Tree :=
  decideEq

def string (text : String) : Tree :=
  .scalar (Scalar.string text)

def null : Tree :=
  .scalar Scalar.null

instance : Inhabited Tree :=
  ⟨null⟩

------------------------------------------------------------
-- Views
------------------------------------------------------------

def isMapping : Tree → Bool
  | .mapping _ => true
  | _ => false

def isSequence : Tree → Bool
  | .sequence _ => true
  | _ => false

def entries? : Tree → Option (Mapping Tree)
  | .mapping es => some es
  | _ => none

def items? : Tree → Option (List Tree)
  | .sequence xs => some xs
  | _ => none

def scalar? : Tree → Option Scalar
  | .scalar s => some s
  | _ => none

/- The text of a scalar that is not null. -/
def text? : Tree → Option String
  | .scalar s => if s.isNull then none else some s.text
  | _ => none

/- The null scalar node of any text. -/
def isNull : Tree → Bool
  | .scalar s => s.isNull
  | _ => false

------------------------------------------------------------
-- Lookup
------------------------------------------------------------

/- The value of a key of a mapping. -/
def get? (t : Tree) (key : String) : Option Tree :=
  match t with
  | .mapping es => Mapping.get? key es
  | _ => none

/- The child that a step leads to. -/
def child? (t : Tree) (e : Path.Element) : Option Tree :=
  match t, e with
  | .mapping es, .field name => Mapping.get? name es
  | .sequence xs, .index i => xs[i]?
  | _, _ => none

/- The node that a path leads to. -/
def lookup? : Tree → Path → Option Tree
  | t, [] => some t
  | t, e :: p =>
      match t.child? e with
      | some c => lookup? c p
      | none => none

------------------------------------------------------------
-- Replacement
------------------------------------------------------------

/-
  Change an item in place; fails if there is no such item or
  the change declines.
-/
def updateItem?
    (change : Tree → Option Tree) :
    Nat → List Tree → Option (List Tree)
  | _, [] => none
  | 0, x :: xs => (change x).map (· :: xs)
  | i + 1, x :: xs => (updateItem? change i xs).map (x :: ·)

/- Change the child that a step leads to. -/
def updateChild?
    (t : Tree)
    (e : Path.Element)
    (change : Tree → Option Tree) : Option Tree :=
  match t, e with
  | .mapping es, .field name =>
      (Mapping.update? name change es).map .mapping
  | .sequence xs, .index i =>
      (updateItem? change i xs).map .sequence
  | _, _ => none

/-
  Change the node that a path leads to.  Fails if the path
  leads nowhere or the change declines.
-/
def replaceAt?
    (t : Tree)
    (p : Path)
    (change : Tree → Option Tree) : Option Tree :=
  match p with
  | [] => change t
  | e :: p =>
      t.updateChild? e fun c => c.replaceAt? p change

------------------------------------------------------------
-- Well-Formed Trees
------------------------------------------------------------

mutual

/- No mapping of the tree has a key twice. -/
def uniqueKeys : Tree → Bool
  | .scalar _ => true
  | .sequence xs => uniqueItems xs
  | .mapping es => uniqueEntries es

/- No mapping in the items has a key twice. -/
def uniqueItems : List Tree → Bool
  | [] => true
  | x :: xs => uniqueKeys x && uniqueItems xs

/- The keys are pairwise different, here and below. -/
def uniqueEntries : List (String × Tree) → Bool
  | [] => true
  | (k, v) :: es =>
      !(es.map Prod.fst).contains k &&
        uniqueKeys v && uniqueEntries es

end

/- Trees whose mappings have pairwise different keys. -/
def UniqueKeys (t : Tree) : Prop :=
  t.uniqueKeys = true

instance (t : Tree) : Decidable t.UniqueKeys :=
  inferInstanceAs (Decidable (t.uniqueKeys = true))

end Tree

end ManifestRecipes
