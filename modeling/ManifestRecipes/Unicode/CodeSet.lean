import ManifestRecipes.Unicode.CaseFolding
import ManifestRecipes.Unicode.RunSet

/-
  Sets of code points.

  A set is an expression over ranges and tables.  Membership
  follows the expression.  The boundaries of a set's runs are
  worked out only where its size matters; they are among
  those of its parts.

  Key definitions include:
    * `CodeSet`
    * `CodeSet.contains`
    * `CodeSet.boundaries`
-/

namespace ManifestRecipes

namespace Unicode

/- Expressions for sets of code points. -/
inductive CodeSet where
  /- No code points. -/
  | empty
  /- The code points from the first to the last. -/
  | range (first last : Nat)
  /- The code points of a table. -/
  | table (runs : RunSet)
  /- All other code points. -/
  | complement (s : CodeSet)
  /- The code points of either set. -/
  | union (s t : CodeSet)
  /- The code points of both sets. -/
  | intersection (s t : CodeSet)
  /- The code points of the first set alone. -/
  | difference (s t : CodeSet)
  /- The code points of exactly one of two sets. -/
  | symmetricDifference (s t : CodeSet)
  /- The case variants of the members of a set. -/
  | variants (rule : CaseRule) (s : CodeSet)

namespace CodeSet

def everything : CodeSet :=
  .complement .empty

def single (c : Nat) : CodeSet :=
  .range c c

def unions : List CodeSet → CodeSet
  | [] => .empty
  | s :: ss => .union s (unions ss)

------------------------------------------------------------
-- Membership
------------------------------------------------------------

/- Membership of a code point. -/
def contains : CodeSet → Nat → Bool
  | .empty, _ => false
  | .range first last, c => first ≤ c && c ≤ last
  | .table runs, c => runs.contains c
  | .complement s, c => !s.contains c
  | .union s t, c => s.contains c || t.contains c
  | .intersection s t, c => s.contains c && t.contains c
  | .difference s t, c => s.contains c && !t.contains c
  | .symmetricDifference s t, c => s.contains c != t.contains c
  | .variants rule s, c => (rule.variants c).any s.contains

------------------------------------------------------------
-- Runs
------------------------------------------------------------

/-
  Put a number before the first larger one of an increasing
  list, and whatever comes after the number into the rest.
-/
def place (x : Nat) (after : List Nat → List Nat) :
    List Nat → List Nat
  | [] => x :: after []
  | y :: ys =>
      if x < y then x :: after (y :: ys)
      else if x = y then x :: after ys
      else y :: place x after ys

/- Numbers of two increasing lists, in increasing order. -/
def merged : List Nat → List Nat → List Nat
  | [], ys => ys
  | x :: xs, ys => place x (merged xs) ys

/- The code points at which runs may begin or end, in increasing order. -/
def candidates : CodeSet → List Nat
  | .empty => []
  | .range first last => [first, last + 1]
  | .table runs => runs.boundaries
  | .complement s => merged [0] s.candidates
  | .union s t => merged s.candidates t.candidates
  | .intersection s t => merged s.candidates t.candidates
  | .difference s t => merged s.candidates t.candidates
  | .symmetricDifference s t => merged s.candidates t.candidates
  | .variants rule s => merged rule.edges s.candidates

/- A code point and the one before it are not both inside or both outside. -/
def changesAt (s : CodeSet) (c : Nat) : Bool :=
  s.contains c != (c ≠ 0 && s.contains (c - 1))

/- The code points at which runs begin or end, in increasing order. -/
def boundaries (s : CodeSet) : List Nat :=
  s.candidates.filter s.changesAt

end CodeSet

end Unicode

end ManifestRecipes
