import ManifestRecipes.Binary64.Reading
import ManifestRecipes.Binary64.Shortest
import ManifestRecipes.Proofs.Binary64.Nearest
import ManifestRecipes.Proofs.Text

/-
  Decimals that stand for magnitudes.

  A decimal is a quotient.  The digits found for a magnitude
  lie among the reals of its rank, whether trailing zeros are
  dropped or not, and every decimal among the reals of a
  finite rank is read as that rank.

  Key definitions include:
    * `Decimal.num`
    * `Decimal.den`

  Main declarations:
    * `Decimal.roundsTo_extended_iff`
    * `Binary64.roundsTo_shortest`
    * `Binary64.ofDecimal_of_roundsTo`
-/

namespace ManifestRecipes

------------------------------------------------------------
-- Decimals
------------------------------------------------------------

namespace Decimal

/- The numerator of a decimal. -/
def num (d : Decimal) : Nat :=
  d.digits * 10 ^ d.exponent.toNat

/- The denominator of a decimal. -/
def den (d : Decimal) : Nat :=
  10 ^ (-d.exponent).toNat

theorem den_pos (d : Decimal) : 0 < d.den :=
  Nat.pow_pos (by decide)

/- Zeros at the end of the digits do not change the quotient. -/
theorem roundsTo_extended_iff
    {n k rank : Nat}
    {e : Int} :
    Binary64.RoundsTo (num ⟨n * 10 ^ k, e - k⟩)
        (den ⟨n * 10 ^ k, e - k⟩) rank ↔
      Binary64.RoundsTo (num ⟨n, e⟩) (den ⟨n, e⟩) rank := by
  have hWhole : k + (e - k).toNat = e.toNat + (k - e.toNat) := by
    omega
  have hPart : (-(e - k)).toNat = (-e).toNat + (k - e.toNat) := by
    omega
  have hNum :
      num ⟨n * 10 ^ k, e - k⟩ =
        num ⟨n, e⟩ * 10 ^ (k - e.toNat) := by
    rw [num, num, Nat.mul_assoc, Nat.mul_assoc, ← Nat.pow_add,
      ← Nat.pow_add, hWhole]
  have hDen :
      den ⟨n * 10 ^ k, e - k⟩ =
        den ⟨n, e⟩ * 10 ^ (k - e.toNat) := by
    rw [den, den, ← Nat.pow_add, hPart]
  rw [hNum, hDen, Binary64.RoundsTo.mul_iff (Nat.pow_pos (by decide))]

end Decimal

namespace Binary64

variable {rank : Nat} {d : Decimal}

------------------------------------------------------------
-- The Shortest Decimal
------------------------------------------------------------

/- The test tells which decimals lie among the reals of a rank. -/
theorem readsBack_iff :
    readsBack rank d = true ↔ RoundsTo d.num d.den rank := by
  simp only [readsBack, Decimal.compareRatio, Nat.pow_eq,
    roundsTo_iff, Decimal.num, Decimal.den]
  split_ifs with hEven
  · simp only [Bool.and_eq_true, bne_iff_ne, Nat.compare_ne_lt,
      Nat.compare_ne_gt]
    constructor
    · rintro ⟨hLow, hHigh⟩
      exact ⟨hLow, hHigh, fun hOdd => by omega⟩
    · rintro ⟨hLow, hHigh, _⟩
      exact ⟨hLow, hHigh⟩
  · simp only [Bool.and_eq_true, beq_iff_eq, Nat.compare_eq_lt,
      Nat.compare_eq_gt]
    constructor
    · rintro ⟨hLow, hHigh⟩
      exact ⟨hLow.le, hHigh.le, fun _ => ⟨hLow, hHigh⟩⟩
    · rintro ⟨_, _, hStrict⟩
      exact hStrict (by omega)

/- A grid has a hit, which reads back, if a neighbour on it does. -/
theorem onGrid?_cases
    (tieUp : Bool)
    (rank : Nat)
    (e : Int) :
    (onGrid? tieUp rank e = none ∧
      readsBack rank ⟨floorAt rank e, e⟩ = false ∧
        readsBack rank ⟨floorAt rank e + 1, e⟩ = false) ∨
      ∃ n, onGrid? tieUp rank e = some ⟨n, e⟩ ∧
        readsBack rank ⟨n, e⟩ = true := by
  unfold onGrid?
  simp only
  generalize Decimal.compareRatio _ (2 * units rank) one = nearer
  cases hLow : readsBack rank ⟨floorAt rank e, e⟩ <;>
    cases hHigh : readsBack rank ⟨floorAt rank e + 1, e⟩
  · exact .inl ⟨rfl, rfl, rfl⟩
  · exact .inr ⟨_, rfl, hHigh⟩
  · exact .inr ⟨_, rfl, hLow⟩
  · -- Both neighbours read back, whichever is taken.
    right
    cases nearer with
    | lt => exact ⟨_, rfl, hHigh⟩
    | gt => exact ⟨_, rfl, hLow⟩
    | eq =>
        simp only
        split_ifs
        · exact ⟨_, rfl, hHigh⟩
        · exact ⟨_, rfl, hLow⟩

/- A decimal found on a grid reads back. -/
theorem roundsTo_of_onGrid?
    {tieUp : Bool}
    {e : Int}
    (hFound : onGrid? tieUp rank e = some d) :
    RoundsTo d.num d.den rank := by
  rcases onGrid?_cases tieUp rank e with
    ⟨hNone, _⟩ | ⟨n, hGrid, hReads⟩
  · rw [hNone] at hFound
    cases hFound
  · rw [hGrid] at hFound
    cases hFound
    exact readsBack_iff.mp hReads

/- A decimal found on one of the grids reads back. -/
theorem roundsTo_of_search
    {tieUp : Bool}
    {e : Int}
    {n : Nat}
    (hFound : search tieUp rank e n = some d) :
    RoundsTo d.num d.den rank := by
  induction n generalizing e with
  | zero => cases hFound
  | succ n ih =>
      unfold search at hFound
      cases hGrid : onGrid? tieUp rank e with
      | some d' =>
          rw [hGrid] at hFound
          cases hFound
          exact roundsTo_of_onGrid? hGrid
      | none =>
          rw [hGrid] at hFound
          exact ih hFound

/- Dropping zeros at the end does not change what a decimal reads as. -/
theorem roundsTo_strip
    (fuel : Nat)
    (hRounds : RoundsTo d.num d.den rank) :
    RoundsTo (d.strip fuel).num (d.strip fuel).den rank := by
  induction fuel generalizing d with
  | zero => exact hRounds
  | succ fuel ih =>
      unfold Decimal.strip
      split_ifs with hZero
      · apply ih
        rcases d with ⟨n, e⟩
        have hDigits : n / 10 * 10 ^ 1 = n :=
          Nat.div_mul_cancel (Nat.dvd_of_mod_eq_zero hZero.2)
        have hExponent : e + 1 - (1 : Nat) = e := by omega
        rw [← hDigits, ← hExponent] at hRounds
        exact Decimal.roundsTo_extended_iff.mp hRounds
      · exact hRounds

/- A magnitude itself is strictly between the ends of its reals. -/
theorem roundsTo_units
    {den : Nat}
    (hPositive : 0 < rank)
    (hDen : 0 < den) :
    RoundsTo (units rank * den) (one * den) rank := by
  have hScale : 0 < one * den := Nat.mul_pos one_pos hDen
  have hBelow : units (rank - 1) < units rank :=
    units_strictMono (Nat.sub_one_lt_of_lt hPositive)
  have hAbove : units rank < units (rank + 1) :=
    units_strictMono (Nat.lt_succ_self rank)
  have hHere :
      units rank * den * (2 * one) =
        (units rank + units rank) * (one * den) := by
    ring
  have hLow :
      (units (rank - 1) + units rank) * (one * den) <
        units rank * den * (2 * one) := by
    rw [hHere]
    exact Nat.mul_lt_mul_of_pos_right
      (Nat.add_lt_add_right hBelow _) hScale
  have hHigh :
      units rank * den * (2 * one) <
        (units rank + units (rank + 1)) * (one * den) := by
    rw [hHere]
    exact Nat.mul_lt_mul_of_pos_right
      (Nat.add_lt_add_left hAbove _) hScale
  exact ⟨hLow.le, hHigh.le, fun _ => ⟨hLow, hHigh⟩⟩

/- The exact decimal of a positive magnitude reads back. -/
theorem roundsTo_exact
    {k : Nat}
    {e : Int}
    (hPositive : 0 < rank)
    (hOne : one = Nat.pow 2 k)
    (hExponent : e = -k) :
    RoundsTo (Decimal.num ⟨units rank * Nat.pow 5 k, e⟩)
      (Decimal.den ⟨units rank * Nat.pow 5 k, e⟩) rank := by
  have hNum :
      Decimal.num ⟨units rank * Nat.pow 5 k, e⟩ =
        units rank * 5 ^ k := by
    simp [Decimal.num, hExponent]
  have hDen :
      Decimal.den ⟨units rank * Nat.pow 5 k, e⟩ =
        one * 5 ^ k := by
    simp [Decimal.den, hExponent, hOne, ← Nat.mul_pow]
  rw [hNum, hDen]
  exact roundsTo_units hPositive (Nat.pow_pos (by decide))

/- The shortest decimal of a positive magnitude reads back. -/
theorem roundsTo_shortest
    (tieUp : Bool)
    (hPositive : 0 < rank) :
    RoundsTo (shortest tieUp rank).num (shortest tieUp rank).den
      rank := by
  unfold shortest
  cases hFound : search tieUp rank (scale rank - 1) 17 with
  | some d => exact roundsTo_strip 17 (roundsTo_of_search hFound)
  | none =>
      have hOne : one = Nat.pow 2 1074 := by decide +kernel
      have hExact := roundsTo_exact hPositive hOne rfl
      exact hExact

------------------------------------------------------------
-- Reading Decimals
------------------------------------------------------------

theorem units_lt_pow
    (hRank : rank ≤ rankLimit) :
    units rank < 10 ^ 310 * one := by
  have hLimit : units rankLimit < 10 ^ 310 * one := by
    decide +kernel
  exact (units_strictMono.monotone hRank).trans_lt hLimit

/- A decimal that reads as a positive rank is not zero. -/
theorem digits_pos_of_roundsTo
    (hPositive : 0 < rank)
    (hRounds : RoundsTo d.num d.den rank) :
    0 < d.digits := by
  have hUnits := units_pos hPositive
  by_contra hZero
  have hDigits : d.digits = 0 := by omega
  have hLow := hRounds.low
  rw [Decimal.num, hDigits, Nat.zero_mul, Nat.zero_mul] at hLow
  have hSum : 0 < units (rank - 1) + units rank := by omega
  exact absurd hLow
    (Nat.not_le.mpr (Nat.mul_pos hSum d.den_pos))

/- A decimal that reads as a positive rank is not too small. -/
theorem top_ge_of_roundsTo
    (hPositive : 0 < rank)
    (hRounds : RoundsTo d.num d.den rank) :
    -330 ≤ d.exponent + (Digits.write d.digits).length := by
  by_contra hSmall
  have hSum : 1 ≤ units (rank - 1) + units rank :=
    Nat.le_add_left_of_le (units_pos hPositive)
  have hSize : 2 * one < 10 ^ 331 := by decide +kernel
  have hDigits := Digits.lt_pow_length_write d.digits
  generalize (Digits.write d.digits).length = n at hSmall hDigits
  have hExponent :
      n + d.exponent.toNat + 331 ≤ (-d.exponent).toNat := by
    omega
  have hNum : d.num < 10 ^ (n + d.exponent.toNat) := by
    rw [Decimal.num, Nat.pow_add]
    exact Nat.mul_lt_mul_of_pos_right hDigits
      (Nat.pow_pos (by decide))
  have hBelow : d.num * (2 * one) < d.den := calc
    d.num * (2 * one) < 10 ^ (n + d.exponent.toNat) * 10 ^ 331 :=
      Nat.mul_lt_mul'' hNum hSize
    _ = 10 ^ (n + d.exponent.toNat + 331) := by rw [← Nat.pow_add]
    _ ≤ d.den := Nat.pow_le_pow_right (by decide) hExponent
  have hLow : d.den ≤ d.num * (2 * one) :=
    (Nat.le_mul_of_pos_left d.den hSum).trans hRounds.low
  omega

/- A decimal that reads as a finite rank is not too large. -/
theorem top_le_of_roundsTo
    (hPositive : 0 < rank)
    (hRank : rank < rankLimit)
    (hRounds : RoundsTo d.num d.den rank) :
    d.exponent + (Digits.write d.digits).length ≤ 310 := by
  by_contra hLarge
  have hDigits := Digits.pow_length_write_le
    (digits_pos_of_roundsTo hPositive hRounds)
  have hLength : 0 < (Digits.write d.digits).length :=
    Nat.length_toDigits_pos
  generalize (Digits.write d.digits).length = n
    at hLarge hDigits hLength
  have hExponent :
      310 + (-d.exponent).toNat ≤ n - 1 + d.exponent.toNat := by
    omega
  have hNum : 10 ^ 310 * d.den ≤ d.num := calc
    10 ^ 310 * d.den = 10 ^ (310 + (-d.exponent).toNat) := by
      rw [Decimal.den, ← Nat.pow_add]
    _ ≤ 10 ^ (n - 1 + d.exponent.toNat) :=
      Nat.pow_le_pow_right (by decide) hExponent
    _ = 10 ^ (n - 1) * 10 ^ d.exponent.toNat := Nat.pow_add ..
    _ ≤ d.num := Nat.mul_le_mul_right _ hDigits
  have hSum :
      units rank + units (rank + 1) < 10 ^ 310 * (2 * one) := by
    have hHere := units_lt_pow hRank.le
    have hAbove : units (rank + 1) < 10 ^ 310 * one :=
      units_lt_pow hRank
    rw [Nat.mul_left_comm]
    omega
  have hBelow :
      d.num * (2 * one) < d.num * (2 * one) := calc
    d.num * (2 * one) ≤ (units rank + units (rank + 1)) * d.den :=
      hRounds.high
    _ < 10 ^ 310 * (2 * one) * d.den :=
      Nat.mul_lt_mul_of_pos_right hSum d.den_pos
    _ = 10 ^ 310 * d.den * (2 * one) := Nat.mul_right_comm ..
    _ ≤ d.num * (2 * one) := Nat.mul_le_mul_right _ hNum
  exact absurd hBelow (Nat.lt_irrefl _)

/-
  A decimal among the reals of a positive finite rank is read
  as that rank.
-/
theorem ofDecimal_of_roundsTo
    {r : Fin rankLimit}
    (negative : Bool)
    (hPositive : 0 < r.val)
    (hRounds : RoundsTo d.num d.den r.val) :
    ofDecimal negative d.digits d.exponent = .finite negative r := by
  have hDigits := digits_pos_of_roundsTo hPositive hRounds
  have hLow := top_ge_of_roundsTo hPositive hRounds
  have hHigh := top_le_of_roundsTo hPositive r.isLt hRounds
  have hNearest : nearest d.num d.den = r.val :=
    hRounds.nearest_eq d.den_pos
  have hRatio : ofRatio negative d.num d.den = .finite negative r := by
    simp only [ofRatio, hNearest, r.isLt, dif_pos]
  unfold ofDecimal
  simp only [Nat.pow_eq]
  rw [if_neg (by simp; omega), if_neg (by omega)]
  split_ifs with hWhole
  · have hDen : d.den = 1 := by
      simp [Decimal.den, hWhole]
    rwa [hDen] at hRatio
  · have hNum : d.num = d.digits := by
      have hExponent : d.exponent.toNat = 0 := by omega
      simp [Decimal.num, hExponent]
    rwa [hNum] at hRatio

end Binary64

end ManifestRecipes
