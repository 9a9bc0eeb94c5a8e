import ManifestRecipes.Binary64
import Mathlib.Order.Monotone.Basic
import Mathlib.Tactic.MkIffOfInductiveProp
import Mathlib.Tactic.Ring

/-
  Rounding to the nearest magnitude.

  The magnitudes grow with their ranks, and each has the
  reals around it that are nearest to it: those from halfway
  to the magnitude below up to halfway to the magnitude above,
  the ends included when the rank is even.  A quotient lies
  among the reals of exactly one rank, and that rank is the
  one to which it is rounded.

  Key definitions include:
    * `Binary64.IsSignificand`
    * `Binary64.RoundsTo`

  Main declarations:
    * `Binary64.units_strictMono`
    * `Binary64.roundsTo_nearest`
    * `Binary64.RoundsTo.nearest_eq`
-/

namespace ManifestRecipes

namespace Binary64

------------------------------------------------------------
-- Magnitudes
------------------------------------------------------------

theorem one_pos : 0 < one := by
  decide +kernel

/-
  The significands at a shift.  The last one is also the first
  at the next shift.
-/
def IsSignificand (s m : Nat) : Prop :=
  m ≤ 2 ^ 53 ∧ (s = 0 ∨ 2 ^ 52 ≤ m)

/- The magnitude of a significand at a shift. -/
theorem units_of_isSignificand
    {s m : Nat}
    (hForm : IsSignificand s m) :
    units (s * 2 ^ 52 + m) = m * 2 ^ s := by
  rcases hForm with ⟨hLast, hFirst⟩
  unfold units significand shift
  simp only [Nat.pow_eq]
  by_cases hSmall : s * 2 ^ 52 + m < 2 ^ 52
  · have hShift : s = 0 := by omega
    subst hShift
    have hRank : (0 * 2 ^ 52 + m) / 2 ^ 52 - 1 = 0 := by omega
    rw [if_pos hSmall, hRank]
    simp
  · rw [if_neg hSmall]
    by_cases hCarry : m = 2 ^ 53
    · have hRank : (s * 2 ^ 52 + m) / 2 ^ 52 - 1 = s + 1 := by
        omega
      have hRest : 2 ^ 52 + (s * 2 ^ 52 + m) % 2 ^ 52 = 2 ^ 52 := by
        omega
      rw [hRank, hRest, hCarry, pow_succ 2 s, pow_succ 2 52]
      ring
    · have hRank : (s * 2 ^ 52 + m) / 2 ^ 52 - 1 = s := by omega
      have hRest : 2 ^ 52 + (s * 2 ^ 52 + m) % 2 ^ 52 = m := by
        omega
      rw [hRank, hRest]

/- Every rank has a significand that is not the last of its shift. -/
theorem exists_significand (rank : Nat) :
    ∃ s m, m < 2 ^ 53 ∧ IsSignificand s m ∧
      rank = s * 2 ^ 52 + m := by
  by_cases hSmall : rank < 2 ^ 53
  · exact ⟨0, rank, hSmall, ⟨hSmall.le, .inl rfl⟩, by omega⟩
  · refine ⟨rank / 2 ^ 52 - 1, 2 ^ 52 + rank % 2 ^ 52, ?_, ?_, ?_⟩
    · omega
    · exact ⟨by omega, .inr (by omega)⟩
    · omega

/- Magnitudes grow with their ranks. -/
theorem units_strictMono : StrictMono units := by
  apply strictMono_nat_of_lt_succ
  intro rank
  obtain ⟨s, m, hBound, hForm, rfl⟩ := exists_significand rank
  have hNext : IsSignificand s (m + 1) :=
    ⟨hBound, hForm.2.imp_right (Nat.le_succ_of_le ·)⟩
  rw [Nat.add_assoc, units_of_isSignificand hForm,
    units_of_isSignificand hNext]
  exact Nat.mul_lt_mul_of_pos_right (Nat.lt_succ_self m)
    (Nat.two_pow_pos s)

/- The magnitude above is at least a unit of the significand away. -/
theorem units_add_le_above
    {s m : Nat}
    (hForm : IsSignificand s m) :
    units (s * 2 ^ 52 + m) + 2 ^ s ≤
      units (s * 2 ^ 52 + m + 1) := by
  by_cases hLast : m = 2 ^ 53
  · have hNext : IsSignificand (s + 1) (2 ^ 52 + 1) :=
      ⟨by decide, .inr (by decide)⟩
    have hRank :
        s * 2 ^ 52 + m + 1 = (s + 1) * 2 ^ 52 + (2 ^ 52 + 1) := by
      omega
    rw [hRank, units_of_isSignificand hForm,
      units_of_isSignificand hNext, hLast, Nat.pow_succ 2 s]
    omega
  · have hNext : IsSignificand s (m + 1) :=
      ⟨Nat.lt_of_le_of_ne hForm.1 hLast,
        hForm.2.imp_right (Nat.le_succ_of_le ·)⟩
    rw [Nat.add_assoc, units_of_isSignificand hForm,
      units_of_isSignificand hNext, Nat.succ_mul]

/-
  The magnitude below is a unit of the significand away,
  except below the first significand of a shift.
-/
theorem units_below_add
    {s m : Nat}
    (hForm : IsSignificand s m)
    (hPositive : 0 < m)
    (hInner : s = 0 ∨ m ≠ 2 ^ 52) :
    units (s * 2 ^ 52 + m - 1) + 2 ^ s =
      units (s * 2 ^ 52 + m) := by
  have hBefore : IsSignificand s (m - 1) := by
    rcases hForm with ⟨hLast, hFirst⟩
    exact ⟨by omega, by omega⟩
  have hSame : m - 1 + 1 = m := Nat.sub_add_cancel hPositive
  rw [Nat.add_sub_assoc hPositive, units_of_isSignificand hForm,
    units_of_isSignificand hBefore, ← Nat.succ_mul,
    Nat.succ_eq_add_one, hSame]

theorem units_pos
    {rank : Nat}
    (hPositive : 0 < rank) :
    0 < units rank :=
  Nat.zero_lt_of_lt (units_strictMono hPositive)

------------------------------------------------------------
-- Rounding Quotients to Natural Numbers
------------------------------------------------------------

/- A rounded quotient is at most half away, and less when it is odd. -/
theorem roundHalfEven_bounds
    {num den m : Nat}
    (hDen : 0 < den)
    (hRound : roundHalfEven num den = m) :
    2 * (m * den) ≤ 2 * num + den ∧
      2 * num ≤ 2 * (m * den) + den ∧
      (m % 2 = 1 →
        2 * (m * den) < 2 * num + den ∧
          2 * num < 2 * (m * den) + den) := by
  have hParts : num / den * den + num % den = num :=
    Nat.div_add_mod' num den
  have hRest : num % den < den := Nat.mod_lt num hDen
  have hNext : (num / den + 1) * den = num / den * den + den :=
    Nat.succ_mul _ _
  unfold roundHalfEven at hRound
  simp only at hRound
  split_ifs at hRound with hLow hHigh hEven <;> subst hRound
  · omega
  · rw [hNext]
    omega
  · omega
  · rw [hNext]
    omega

------------------------------------------------------------
-- The Reals of a Rank
------------------------------------------------------------

/-
  A quotient lies among the reals that are nearest to the
  magnitude of a rank.
-/
@[mk_iff]
structure RoundsTo (num den rank : Nat) : Prop where
  low :
    (units (rank - 1) + units rank) * den ≤ num * (2 * one)
  high :
    num * (2 * one) ≤ (units rank + units (rank + 1)) * den
  odd :
    rank % 2 = 1 →
      (units (rank - 1) + units rank) * den < num * (2 * one) ∧
        num * (2 * one) < (units rank + units (rank + 1)) * den

namespace RoundsTo

variable {num den r r' : Nat}

/- Of two ranks that a quotient belongs to, neither is below. -/
theorem le
    (hDen : 0 < den)
    (hRounds : RoundsTo num den r)
    (hRounds' : RoundsTo num den r') :
    r ≤ r' := by
  by_contra hAbove
  have hSum :
      units (r - 1) + units r ≤ units r' + units (r' + 1) :=
    Nat.le_of_mul_le_mul_right
      (hRounds.low.trans hRounds'.high) hDen
  have hFirst : units r' ≤ units (r - 1) :=
    units_strictMono.monotone (by omega)
  have hSecond : units (r' + 1) ≤ units r :=
    units_strictMono.monotone (by omega)
  -- The ranks are neighbours and the quotient is halfway between.
  have hNeighbour : r' = r - 1 :=
    units_strictMono.injective (by omega)
  have hHalf : r' + 1 = r := by omega
  have hLow := hRounds.low
  have hHigh := hRounds'.high
  rw [hHalf, hNeighbour] at hHigh
  rcases Nat.mod_two_eq_zero_or_one r with hEven | hOdd
  · have hStrict := (hRounds'.odd (by omega)).2
    rw [hHalf, hNeighbour] at hStrict
    exact absurd hLow (Nat.not_le.mpr hStrict)
  · exact absurd hHigh (Nat.not_le.mpr (hRounds.odd hOdd).1)

theorem unique
    (hDen : 0 < den)
    (hRounds : RoundsTo num den r)
    (hRounds' : RoundsTo num den r') :
    r = r' :=
  Nat.le_antisymm (hRounds.le hDen hRounds')
    (hRounds'.le hDen hRounds)

/- A quotient may be extended. -/
theorem mul_iff
    {k : Nat}
    (hFactor : 0 < k) :
    RoundsTo (num * k) (den * k) r ↔ RoundsTo num den r := by
  have hLeft : ∀ a, a * (den * k) = a * den * k :=
    fun a => (Nat.mul_assoc a den k).symm
  have hRight : num * k * (2 * one) = num * (2 * one) * k :=
    Nat.mul_right_comm num k (2 * one)
  simp only [roundsTo_iff, hLeft, hRight,
    Nat.mul_le_mul_right_iff hFactor, Nat.mul_lt_mul_right hFactor]

end RoundsTo

------------------------------------------------------------
-- The Nearest Rank
------------------------------------------------------------

section Nearest

variable {num den : Nat}

/-
  The nearest rank is a rounded significand at a shift that
  fits the size of the quotient.
-/
theorem nearest_cases
    (num : Nat)
    (hDen : 0 < den) :
    ∃ s, nearest num den =
        s * 2 ^ 52 + roundHalfEven (num * one) (den * 2 ^ s) ∧
      num * one < 2 ^ 53 * (den * 2 ^ s) ∧
      (s = 0 ∨ 2 ^ 52 * (den * 2 ^ s) ≤ num * one) := by
  have hLift : ∀ a s, a * (den * 2 ^ s) = a * 2 ^ s * den := by
    intro a s
    ring
  unfold nearest
  simp only [Nat.pow_eq]
  refine ⟨_, rfl, ?_⟩
  simp only [hLift, ← Nat.div_lt_iff_lt_mul hDen,
    ← Nat.le_div_iff_mul_le hDen]
  generalize num * one / den = q
  by_cases hSmall : q < 2 ^ 53
  · rw [if_pos hSmall]
    exact ⟨by simpa using hSmall, .inl rfl⟩
  · rw [if_neg hSmall]
    have hPositive : q ≠ 0 := by omega
    have hLog : 52 ≤ q.log2 :=
      (Nat.le_log2 hPositive).mpr (by omega)
    constructor
    · have hExponent : q.log2 + 1 = 53 + (q.log2 - 52) := by omega
      rw [← Nat.pow_add, ← hExponent]
      exact Nat.lt_log2_self
    · right
      have hExponent : q.log2 = 52 + (q.log2 - 52) := by omega
      rw [← Nat.pow_add, ← hExponent]
      exact Nat.log2_self_le hPositive

/- A rounded quotient is a significand at a shift of its size. -/
theorem isSignificand_of_bounds
    {n d s m : Nat}
    (hDen : 0 < d)
    (hLow : 2 * (m * d) ≤ 2 * n + d)
    (hHigh : 2 * n ≤ 2 * (m * d) + d)
    (hBelow : n < 2 ^ 53 * d)
    (hAbove : s = 0 ∨ 2 ^ 52 * d ≤ n) :
    IsSignificand s m := by
  refine ⟨?_, hAbove.imp_right ?_⟩
  · by_contra hMore
    have hNext : (2 ^ 53 + 1) * d ≤ m * d :=
      Nat.mul_le_mul_right d (by omega)
    omega
  · intro hAbove
    by_contra hFewer
    have hNext : (m + 1) * d ≤ 2 ^ 52 * d :=
      Nat.mul_le_mul_right d (by omega)
    rw [Nat.succ_mul] at hNext
    omega

/- Halfway to the magnitude above is at least half a unit away. -/
theorem half_unit_le_high
    {s m : Nat}
    (den : Nat)
    (hForm : IsSignificand s m) :
    2 * (m * (den * 2 ^ s)) + den * 2 ^ s ≤
      (units (s * 2 ^ 52 + m) + units (s * 2 ^ 52 + m + 1)) *
        den := by
  have hHere := units_of_isSignificand hForm
  have hAbove := units_add_le_above hForm
  rw [hHere] at hAbove ⊢
  calc 2 * (m * (den * 2 ^ s)) + den * 2 ^ s
      = (m * 2 ^ s + (m * 2 ^ s + 2 ^ s)) * den := by ring
    _ ≤ _ := Nat.mul_le_mul_right den (Nat.add_le_add_left hAbove _)

/-
  Halfway to the magnitude below is half a unit away, or the
  quotient is not below the magnitude, whose rank is even.
-/
theorem low_cases
    {n s m : Nat}
    (hForm : IsSignificand s m)
    (hAbove : s = 0 ∨ 2 ^ 52 * (den * 2 ^ s) ≤ n) :
    (units (s * 2 ^ 52 + m - 1) + units (s * 2 ^ 52 + m)) * den +
        den * 2 ^ s = 2 * (m * (den * 2 ^ s)) ∨
      m % 2 = 0 ∧
        (units (s * 2 ^ 52 + m - 1) + units (s * 2 ^ 52 + m)) *
          den ≤ 2 * n := by
  have hHere := units_of_isSignificand hForm
  have hBelow :
      units (s * 2 ^ 52 + m - 1) ≤ units (s * 2 ^ 52 + m) :=
    units_strictMono.monotone (Nat.sub_le _ 1)
  have hTwice :
      (m * 2 ^ s + m * 2 ^ s) * den = 2 * (m * (den * 2 ^ s)) := by
    ring
  by_cases hEdge : m = 0 ∨ s ≠ 0 ∧ m = 2 ^ 52
  · right
    refine ⟨by omega, ?_⟩
    rw [hHere] at hBelow ⊢
    have hLow :
        (units (s * 2 ^ 52 + m - 1) + m * 2 ^ s) * den ≤
          2 * (m * (den * 2 ^ s)) :=
      (Nat.mul_le_mul_right den
        (Nat.add_le_add_right hBelow _)).trans hTwice.le
    rcases hEdge with rfl | ⟨hShift, rfl⟩
    · omega
    · have hSize := hAbove.resolve_left hShift
      omega
  · left
    have hInner := units_below_add hForm (by omega) (by omega)
    rw [hHere] at hInner ⊢
    calc
      (units (s * 2 ^ 52 + m - 1) + m * 2 ^ s) * den + den * 2 ^ s
        = (units (s * 2 ^ 52 + m - 1) + 2 ^ s + m * 2 ^ s) * den := by
          ring
      _ = 2 * (m * (den * 2 ^ s)) := by rw [hInner, hTwice]

/- A quotient belongs to the rank to which it is rounded. -/
theorem roundsTo_nearest
    (num : Nat)
    (hDen : 0 < den) :
    RoundsTo num den (nearest num den) := by
  obtain ⟨s, hNearest, hBelow, hAbove⟩ := nearest_cases num hDen
  have hUnit : 0 < den * 2 ^ s :=
    Nat.mul_pos hDen (Nat.two_pow_pos s)
  rw [hNearest]
  generalize hRound :
    roundHalfEven (num * one) (den * 2 ^ s) = m
  obtain ⟨hLow, hHigh, hOdd⟩ := roundHalfEven_bounds hUnit hRound
  have hForm : IsSignificand s m :=
    isSignificand_of_bounds hUnit hLow hHigh hBelow hAbove
  have hFurther := half_unit_le_high den hForm
  rw [roundsTo_iff, Nat.mul_left_comm num 2 one]
  rcases low_cases hForm hAbove with hNearer | ⟨hEven, hNearer⟩
  · refine ⟨by omega, by omega, fun hRank => ?_⟩
    have hStrict := hOdd (by omega)
    omega
  · exact ⟨hNearer, by omega, fun hRank => by omega⟩

/- A quotient is rounded to the rank to which it belongs. -/
theorem RoundsTo.nearest_eq
    {rank : Nat}
    (hDen : 0 < den)
    (hRounds : RoundsTo num den rank) :
    nearest num den = rank :=
  (roundsTo_nearest num hDen).unique hDen hRounds

end Nearest

end Binary64

end ManifestRecipes
