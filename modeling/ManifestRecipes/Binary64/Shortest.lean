import ManifestRecipes.Binary64
import ManifestRecipes.Text.Digits

/-
  The fewest decimal digits that read back to a number.

  The reals that round to a magnitude form an interval, from
  halfway to the neighbour below to halfway to the neighbour
  above; the ends belong to it when the rank is even.  The
  first decimal grid with a point in the interval wins, and
  of two such points the nearer.

  Key definitions include:
    * `Decimal`
    * `Binary64.readsBack`
    * `Binary64.shortest`
-/

namespace ManifestRecipes

/- The decimal `digits * 10 ^ exponent`. -/
structure Decimal where
  digits : Nat
  exponent : Int
deriving DecidableEq, Repr

namespace Decimal

/- Drop trailing zeros; `fuel` bounds how many. -/
def strip : Nat → Decimal → Decimal
  | 0, d => d
  | fuel + 1, d =>
      if d.digits ≠ 0 ∧ d.digits % 10 = 0 then
        strip fuel ⟨d.digits / 10, d.exponent + 1⟩
      else d

def compareRatio (d : Decimal) (n den : Nat) : Ordering :=
  compare
    (d.digits * Nat.pow 10 d.exponent.toNat * den)
    (n * Nat.pow 10 (-d.exponent).toNat)

end Decimal

namespace Binary64

/- The decimal lies among the reals that round to the rank. -/
def readsBack (rank : Nat) (d : Decimal) : Bool :=
  let low := units (rank - 1) + units rank
  let high := units rank + units (rank + 1)
  let below := d.compareRatio low (2 * one)
  let above := d.compareRatio high (2 * one)
  if rank % 2 = 0 then below != .lt && above != .gt
  else below == .gt && above == .lt

/- The least `k` with a positive magnitude below `10 ^ k`. -/
def scale (rank : Nat) : Int :=
  let u := units rank
  if one ≤ u then (Digits.write (u / one)).length
  else 1 - (Digits.write ((one - 1) / u)).length

/- The magnitude divided by `10 ^ e`, rounded down. -/
def floorAt (rank : Nat) (e : Int) : Nat :=
  units rank * Nat.pow 10 (-e).toNat /
    (one * Nat.pow 10 e.toNat)

/-
  The neighbour of the magnitude on the grid of `10 ^ e`
  that reads back.  Of two, the nearer; `tieUp` decides
  between two that are equally near.
-/
def onGrid? (tieUp : Bool) (rank : Nat) (e : Int) : Option Decimal :=
  let f := floorAt rank e
  let low : Decimal := ⟨f, e⟩
  let high : Decimal := ⟨f + 1, e⟩
  match readsBack rank low, readsBack rank high with
  | false, false => none
  | true, false => some low
  | false, true => some high
  | true, true =>
      let middle : Decimal := ⟨2 * f + 1, e⟩
      match middle.compareRatio (2 * units rank) one with
      | .lt => some high
      | .gt => some low
      | .eq =>
          if tieUp || f % 2 = 1 then some high else some low

/- The first of the grids `10 ^ e`, `10 ^ (e - 1)`, … with a hit. -/
def search
    (tieUp : Bool)
    (rank : Nat)
    (e : Int) : Nat → Option Decimal
  | 0 => none
  | n + 1 =>
      match onGrid? tieUp rank e with
      | some d => some d
      | none => search tieUp rank (e - 1) n

/-
  The shortest decimal of a positive magnitude.  Seventeen
  digits always suffice; the exact value stands behind them.
-/
def shortest (tieUp : Bool) (rank : Nat) : Decimal :=
  match search tieUp rank (scale rank - 1) 17 with
  | some d => d.strip 17
  | none => ⟨units rank * Nat.pow 5 1074, -1074⟩

end Binary64

end ManifestRecipes
