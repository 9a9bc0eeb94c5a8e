/-
  Sets of code points by run lengths.

  A set is written as the lengths of its runs, alternately
  outside and inside, beginning outside.  What comes behind
  the last length written belongs to the opposite side of it.

  Key definitions include:
    * `RunSet`
    * `RunSet.contains`
    * `RunSet.boundaries`
-/

namespace ManifestRecipes

namespace Unicode

/- The lengths of a set's runs. -/
structure RunSet where
  lengths : List Nat

namespace RunSet

/-
  The side of the code point that lies `c` behind the
  beginning of the first of some runs, if that run is on the
  given side.
-/
def side (inside : Bool) : List Nat → Nat → Bool
  | [], _ => inside
  | n :: ns, c => if c < n then inside else side (!inside) ns (c - n)

/- Membership of a code point. -/
def contains (s : RunSet) (c : Nat) : Bool :=
  side false s.lengths c

/- Running sums of numbers, beyond a first total. -/
def sums : Nat → List Nat → List Nat
  | _, [] => []
  | total, n :: ns => (total + n) :: sums (total + n) ns

/- The code points at which runs end and others begin. -/
def boundaries (s : RunSet) : List Nat :=
  sums 0 s.lengths

end RunSet

end Unicode

end ManifestRecipes
