/-
  Binary64 floating point by exact integer arithmetic.

  The finite magnitudes are numbered from zero upwards: the
  magnitude of rank `r` is `units r` times the least positive
  magnitude.  Each operation computes its result exactly and
  rounds once, to the nearest rank, ties going to the even
  one.

  Key definitions include:
    * `Binary64`
    * `Binary64.units`
    * `Binary64.nearest`
    * `Binary64.ofRatio`
    * `Binary64.mul`
    * `Binary64.div`
    * `Binary64.lt`
-/

namespace ManifestRecipes

------------------------------------------------------------
-- Numbers
------------------------------------------------------------

/- The number of finite magnitudes. -/
def Binary64.rankLimit : Nat :=
  2047 * Nat.pow 2 52

/-
  A binary64 number.  One not-a-number stands for all of
  them.
-/
inductive Binary64 where
  | nan
  | infinite (negative : Bool)
  | finite (negative : Bool) (rank : Fin Binary64.rankLimit)
deriving DecidableEq

namespace Binary64

/- One, in multiples of the least positive magnitude. -/
def one : Nat :=
  Nat.pow 2 1074

/- How far the significand of a rank is shifted. -/
def shift (rank : Nat) : Nat :=
  rank / Nat.pow 2 52 - 1

def significand (rank : Nat) : Nat :=
  if rank < Nat.pow 2 52 then rank
  else Nat.pow 2 52 + rank % Nat.pow 2 52

/- The magnitude of a rank, in multiples of the least positive one. -/
def units (rank : Nat) : Nat :=
  significand rank * Nat.pow 2 (shift rank)

def signedZero (negative : Bool) : Binary64 :=
  .finite negative ⟨0, by decide⟩

def zero : Binary64 :=
  signedZero false

------------------------------------------------------------
-- Rounding
------------------------------------------------------------

/- The natural number nearest to a quotient, ties to even. -/
def roundHalfEven (num den : Nat) : Nat :=
  let q := num / den
  let r := num % den
  if 2 * r < den then q
  else if den < 2 * r then q + 1
  else if q % 2 = 0 then q
  else q + 1

/-
  The rank nearest to `num / den`.  A result of
  `rankLimit` or more stands for overflow.
-/
def nearest (num den : Nat) : Nat :=
  let scaled := num * one
  let q := scaled / den
  let s := if q < Nat.pow 2 53 then 0 else q.log2 - 52
  s * Nat.pow 2 52 + roundHalfEven scaled (den * Nat.pow 2 s)

/- The number nearest to a signed quotient. -/
def ofRatio (negative : Bool) (num den : Nat) : Binary64 :=
  let r := nearest num den
  if h : r < rankLimit then .finite negative ⟨r, h⟩
  else .infinite negative

/- The number nearest to a natural number. -/
def ofNat (n : Nat) : Binary64 :=
  ofRatio false n 1

/- The number nearest to an integer. -/
def ofInt (i : Int) : Binary64 :=
  ofRatio (i < 0) i.natAbs 1

------------------------------------------------------------
-- Arithmetic
------------------------------------------------------------

/- Integers are kept apart from infinities and not-a-number. -/
def isFinite : Binary64 → Bool
  | .finite _ _ => true
  | _ => false

def isZero : Binary64 → Bool
  | .finite _ r => r.val = 0
  | _ => false

/- Change the sign. -/
def neg : Binary64 → Binary64
  | .nan => .nan
  | .infinite n => .infinite (!n)
  | .finite n r => .finite (!n) r

/- The rounded product. -/
def mul : Binary64 → Binary64 → Binary64
  | .finite m a, .finite n b =>
      ofRatio (m != n) (units a * units b) (one * one)
  | .infinite m, .infinite n => .infinite (m != n)
  | .infinite m, .finite n b =>
      if b.val = 0 then .nan else .infinite (m != n)
  | .finite m a, .infinite n =>
      if a.val = 0 then .nan else .infinite (m != n)
  | _, _ => .nan

/- The rounded quotient. -/
def div : Binary64 → Binary64 → Binary64
  | .finite m a, .finite n b =>
      if b.val = 0 then
        if a.val = 0 then .nan else .infinite (m != n)
      else ofRatio (m != n) (units a) (units b)
  | .infinite m, .finite n _ => .infinite (m != n)
  | .finite m _, .infinite n =>
      signedZero (m != n)
  | _, _ => .nan

/- A number placed on the integer line; both zeros fall together. -/
def place? : Binary64 → Option Int
  | .nan => none
  | .infinite true => some (-(rankLimit : Int))
  | .infinite false => some rankLimit
  | .finite true r => some (-(r.val : Int))
  | .finite false r => some r.val

/- Strictly less; false when either side is not a number. -/
def lt (a b : Binary64) : Bool :=
  match place? a, place? b with
  | some x, some y => x < y
  | _, _ => false

/-
  Equal in value, where a not-a-number counts as equal to
  itself.
-/
def sameValue (a b : Binary64) : Bool :=
  match a, b with
  | .nan, .nan => true
  | _, _ =>
      match place? a, place? b with
      | some x, some y => x = y
      | _, _ => false

end Binary64

end ManifestRecipes
