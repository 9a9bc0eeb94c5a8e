import ManifestRecipes.Proofs.Binary64.Notation

/-
  Long integers.

  From 2 to the power 63 on, the magnitudes are whole numbers,
  and no two of them are nearer than 2048.  Among the reals of
  such a magnitude there is a multiple of a thousand, but there
  are no two multiples of ten thousand.  So what is written for
  it ends in three zeros, and a multiple of ten thousand is
  written as it is.

  Key definitions include:
    * `Binary64.IsLong`
    * `Binary64.Surrounds`

  Main declarations:
    * `Binary64.exists_surrounds_nearest`
    * `Binary64.exists_search_eq_some`
    * `NumberNotation.exists_render_long`
-/

namespace ManifestRecipes

namespace Binary64

variable {rank n u : Nat}

------------------------------------------------------------
-- Magnitudes
------------------------------------------------------------

/- Integers of 64 bits that do not have 63 bits. -/
def IsLong (n : Nat) : Prop :=
  2 ^ 63 ≤ n ∧ n < 2 ^ 64

/-
  The reals of a rank lie around a whole number; they reach at
  least 500 and at most 2048 away from it.
-/
structure Surrounds (rank u : Nat) : Prop where
  units_eq : units rank = u * one
  low : 2 ^ 63 ≤ u
  high : u ≤ 2 ^ 64
  near : ∀ k, u ≤ k + 500 → k ≤ u + 500 → RoundsTo k 1 rank
  not_far : ∀ k, RoundsTo k 1 rank → u ≤ k + 1024 ∧ k ≤ u + 2048

/- A whole number is compared with halfway points that are whole. -/
theorem roundsTo_whole_iff
    {a b x : Nat}
    (hBelow : units (rank - 1) = a * one)
    (hHere : units rank = u * one)
    (hAbove : units (rank + 1) = b * one) :
    RoundsTo x 1 rank ↔
      a + u ≤ 2 * x ∧ 2 * x ≤ u + b ∧
        (rank % 2 = 1 → a + u < 2 * x ∧ 2 * x < u + b) := by
  have hTwice : x * (2 * one) = 2 * x * one := by ring
  rw [roundsTo_iff, hBelow, hHere, hAbove, hTwice, Nat.mul_one,
    Nat.mul_one, ← Nat.add_mul, ← Nat.add_mul,
    Nat.mul_le_mul_right_iff one_pos, Nat.mul_le_mul_right_iff one_pos,
    Nat.mul_lt_mul_right one_pos, Nat.mul_lt_mul_right one_pos]

theorem exists_one_eq_two_pow : ∃ k, one = Nat.pow 2 k :=
  ⟨1074, by decide +kernel⟩

section Shifted

variable {k m : Nat}

theorem two_pow_shift (hOne : one = Nat.pow 2 k) (s : Nat) :
    2 ^ (k + s) = 2 ^ s * one := by
  rw [hOne, Nat.pow_eq, Nat.pow_add, Nat.mul_comm]

/- The magnitude above is one unit of 2048 away, or two. -/
theorem exists_units_above
    (hOne : one = Nat.pow 2 k)
    (hForm : IsSignificand (k + 11) m) :
    ∃ b, units ((k + 11) * 2 ^ 52 + m + 1) = b * one ∧
      2048 * m + 2048 ≤ b ∧ b ≤ 2048 * m + 4096 := by
  rcases hForm with ⟨hLast, hFirst⟩
  by_cases hCarry : m = 2 ^ 53
  · have hNext : IsSignificand (k + 12) (2 ^ 52 + 1) :=
      ⟨by decide, .inr (by decide)⟩
    have hRank :
        (k + 11) * 2 ^ 52 + m + 1 = (k + 12) * 2 ^ 52 + (2 ^ 52 + 1) := by
      omega
    refine ⟨(2 ^ 52 + 1) * 2 ^ 12, ?_, by omega, by omega⟩
    rw [hRank, units_of_isSignificand hNext, two_pow_shift hOne,
      Nat.mul_assoc]
  · have hNext : IsSignificand (k + 11) (m + 1) :=
      ⟨by omega, hFirst.imp_right (Nat.le_succ_of_le ·)⟩
    refine ⟨(m + 1) * 2 ^ 11, ?_, by omega, by omega⟩
    rw [Nat.add_assoc, units_of_isSignificand hNext, two_pow_shift hOne,
      Nat.mul_assoc]

/- The magnitude below is one unit of 2048 away, or half of it. -/
theorem exists_units_below
    (hOne : one = Nat.pow 2 k)
    (hForm : IsSignificand (k + 11) m) :
    ∃ a, units ((k + 11) * 2 ^ 52 + m - 1) = a * one ∧
      a + 1024 ≤ 2048 * m ∧ 2048 * m ≤ a + 2048 := by
  rcases hForm with ⟨hLast, hFirst⟩
  replace hFirst : 2 ^ 52 ≤ m := hFirst.resolve_left (by omega)
  by_cases hBorrow : m = 2 ^ 52
  · have hBefore : IsSignificand (k + 10) (2 ^ 53 - 1) :=
      ⟨by decide, .inr (by decide)⟩
    have hRank :
        (k + 11) * 2 ^ 52 + m - 1 = (k + 10) * 2 ^ 52 + (2 ^ 53 - 1) := by
      omega
    refine ⟨(2 ^ 53 - 1) * 2 ^ 10, ?_, by omega, by omega⟩
    rw [hRank, units_of_isSignificand hBefore, two_pow_shift hOne,
      Nat.mul_assoc]
  · have hBefore : IsSignificand (k + 11) (m - 1) :=
      ⟨by omega, .inr (by omega)⟩
    refine ⟨(m - 1) * 2 ^ 11, ?_, by omega, by omega⟩
    rw [Nat.add_sub_assoc (by omega), units_of_isSignificand hBefore,
      two_pow_shift hOne, Nat.mul_assoc]

/- The reals of a significand of 64 bits. -/
theorem surrounds_of_isSignificand
    (hOne : one = Nat.pow 2 k)
    (hForm : IsSignificand (k + 11) m) :
    Surrounds ((k + 11) * 2 ^ 52 + m) (2048 * m) := by
  have hHere : units ((k + 11) * 2 ^ 52 + m) = 2048 * m * one := by
    rw [units_of_isSignificand hForm, two_pow_shift hOne,
      Nat.mul_assoc, Nat.mul_left_comm]
    rfl
  rcases exists_units_above hOne hForm with ⟨b, hAbove, hMore, hLess⟩
  rcases exists_units_below hOne hForm with ⟨a, hBelow, hMore', hLess'⟩
  rcases hForm with ⟨hLast, hFirst⟩
  have hRounds := fun x =>
    roundsTo_whole_iff (x := x) hBelow hHere hAbove
  refine ⟨hHere, by omega, by omega, ?_, ?_⟩
  · intro x hLow hHigh
    rw [hRounds]
    omega
  · intro x hInside
    rw [hRounds] at hInside
    omega

end Shifted

/- A long integer is rounded to a rank of such a significand. -/
theorem exists_surrounds_nearest (hLong : IsLong n) :
    ∃ u, Surrounds (nearest n 1) u := by
  rcases hLong with ⟨hLow, hHigh⟩
  rcases exists_one_eq_two_pow with ⟨k, hOne⟩
  obtain ⟨s, hNearest, hBelow, hAbove⟩ :=
    nearest_cases n Nat.one_pos
  rw [Nat.one_mul] at hNearest hBelow hAbove
  have hMore : 2 ^ (k + 63) < 2 ^ (53 + s) := calc
    2 ^ (k + 63) = 2 ^ 63 * one := two_pow_shift hOne 63
    _ ≤ n * one := Nat.mul_le_mul_right _ hLow
    _ < 2 ^ (53 + s) := by rwa [Nat.pow_add]
  replace hMore := (Nat.pow_lt_pow_iff_right (by decide)).mp hMore
  replace hAbove := hAbove.resolve_left (by omega)
  have hLess : 2 ^ (52 + s) < 2 ^ (k + 64) := calc
    2 ^ (52 + s) ≤ n * one := by rwa [Nat.pow_add]
    _ < 2 ^ 64 * one := Nat.mul_lt_mul_of_pos_right hHigh one_pos
    _ = 2 ^ (k + 64) := (two_pow_shift hOne 64).symm
  replace hLess := (Nat.pow_lt_pow_iff_right (by decide)).mp hLess
  obtain rfl : s = k + 11 := by omega
  have hUnit : 0 < 2 ^ (k + 11) := Nat.two_pow_pos (k + 11)
  obtain ⟨hRoundLow, hRoundHigh, _⟩ := roundHalfEven_bounds hUnit
    (Eq.refl (roundHalfEven (n * one) (2 ^ (k + 11))))
  have hForm : IsSignificand (k + 11) _ := isSignificand_of_bounds
    hUnit hRoundLow hRoundHigh hBelow (.inr hAbove)
  exact ⟨_, hNearest ▸ surrounds_of_isSignificand hOne hForm⟩

------------------------------------------------------------
-- The Shortest Decimal
------------------------------------------------------------

theorem readsBack_whole_iff (x e : Nat) :
    readsBack rank ⟨x, e⟩ = true ↔ RoundsTo (x * 10 ^ e) 1 rank := by
  rw [readsBack_iff, Decimal.num, Decimal.den]
  simp

theorem exponent_of_onGrid?
    {tieUp : Bool}
    {e : Int}
    {d : Decimal}
    (hFound : onGrid? tieUp rank e = some d) :
    d.exponent = e := by
  rcases onGrid?_cases tieUp rank e with ⟨hNone, _⟩ | ⟨n, hGrid, _⟩
  · rw [hNone] at hFound
    cases hFound
  · rw [hGrid] at hFound
    cases hFound
    rfl

/- The search ends at the latest on a grid with a hit. -/
theorem exists_search_eq_some
    {tieUp : Bool}
    {e e' : Int}
    {fuel : Nat}
    (hHit : (onGrid? tieUp rank e').isSome = true)
    (hBelow : e' ≤ e)
    (hEnough : e < e' + fuel) :
    ∃ d, search tieUp rank e fuel = some d ∧ e' ≤ d.exponent := by
  induction fuel generalizing e with
  | zero => omega
  | succ fuel ih =>
      unfold search
      cases hGrid : onGrid? tieUp rank e with
      | some d => exact ⟨d, rfl, exponent_of_onGrid? hGrid ▸ hBelow⟩
      | none =>
          have hOther : e ≠ e' := by
            rintro rfl
            rw [hGrid] at hHit
            cases hHit
          exact ih (by omega) (by omega)

/- Whole decimals stay whole and equal when zeros are dropped. -/
theorem exists_strip_whole (fuel x e : Nat) :
    ∃ x' e' : Nat, Decimal.strip fuel ⟨x, e⟩ = ⟨x', e'⟩ ∧
      x' * 10 ^ e' = x * 10 ^ e := by
  induction fuel generalizing x e with
  | zero => exact ⟨x, e, rfl, rfl⟩
  | succ fuel ih =>
      unfold Decimal.strip
      split_ifs with hZero
      · rcases ih (x / 10) (e + 1) with ⟨x', e', hStrip, hValue⟩
        have hDigits : x / 10 * 10 = x :=
          Nat.div_mul_cancel (Nat.dvd_of_mod_eq_zero hZero.2)
        refine ⟨x', e', hStrip, ?_⟩
        rw [hValue, Nat.pow_succ', ← Nat.mul_assoc, hDigits]
      · exact ⟨x, e, rfl, rfl⟩

namespace Surrounds

variable (hRank : Surrounds rank u) {tieUp : Bool} {e : Nat}
include hRank

theorem floorAt_eq (e : Nat) : floorAt rank e = u / 10 ^ e := by
  have hExponent : (-(e : Int)).toNat = 0 := by omega
  rw [floorAt, hRank.units_eq, hExponent, Int.toNat_natCast, Nat.pow_eq,
    Nat.pow_eq, Nat.pow_zero, Nat.mul_one, Nat.mul_comm one,
    Nat.mul_div_mul_right _ _ one_pos]

/- A neighbour on the grid that lies among the reals is a hit. -/
theorem isSome_onGrid?
    {x : Nat}
    (hInside : RoundsTo (x * 10 ^ e) 1 rank)
    (hNext : x = u / 10 ^ e ∨ x = u / 10 ^ e + 1) :
    (onGrid? tieUp rank e).isSome = true := by
  rw [← readsBack_whole_iff] at hInside
  rcases onGrid?_cases tieUp rank e with
    ⟨_, hLow, hHigh⟩ | ⟨n, hGrid, _⟩
  · rw [hRank.floorAt_eq] at hLow hHigh
    rcases hNext with rfl | rfl
    · rw [hInside] at hLow
      cases hLow
    · rw [hInside] at hHigh
      cases hHigh
  · rw [hGrid]
    rfl

/- There is a multiple of a thousand among the reals. -/
theorem isSome_onGrid?_three (tieUp : Bool) :
    (onGrid? tieUp rank (3 : Nat)).isSome = true := by
  by_cases hDown : u % 1000 ≤ 500
  · have hInside : RoundsTo (u / 10 ^ 3 * 10 ^ 3) 1 rank :=
      hRank.near _ (by omega) (by omega)
    exact hRank.isSome_onGrid? hInside (.inl rfl)
  · have hInside : RoundsTo ((u / 10 ^ 3 + 1) * 10 ^ 3) 1 rank :=
      hRank.near _ (by omega) (by omega)
    exact hRank.isSome_onGrid? hInside (.inr rfl)

/- A multiple of ten thousand among them is a neighbour. -/
theorem isSome_onGrid?_four
    (tieUp : Bool)
    (hInside : RoundsTo n 1 rank)
    (hMultiple : 10000 ∣ n) :
    (onGrid? tieUp rank (4 : Nat)).isSome = true := by
  rcases hMultiple with ⟨x, rfl⟩
  have hBounds := hRank.not_far _ hInside
  rw [Nat.mul_comm] at hInside
  exact hRank.isSome_onGrid? (e := 4) hInside (by omega)

/- The magnitude has 19 or 20 digits. -/
theorem scale_bounds : 19 ≤ scale rank ∧ scale rank ≤ 20 := by
  have hLow := hRank.low
  have hHigh := hRank.high
  have hScale : scale rank = (Digits.write u).length := by
    rw [scale, hRank.units_eq,
      if_pos (Nat.le_mul_of_pos_left one (by omega)),
      Nat.mul_div_cancel _ one_pos]
  have hMore : 10 ^ 18 < 10 ^ (Digits.write u).length :=
    Nat.lt_of_le_of_lt (by omega) (Digits.lt_pow_length_write u)
  have hLess : 10 ^ ((Digits.write u).length - 1) < 10 ^ 20 :=
    Nat.lt_of_le_of_lt (Digits.pow_length_write_le (by omega)) (by omega)
  replace hMore := (Nat.pow_lt_pow_iff_right (by decide)).mp hMore
  replace hLess := (Nat.pow_lt_pow_iff_right (by decide)).mp hLess
  omega

/- The shortest decimal is whole, and a multiple of what the grid has. -/
theorem exists_shortest_of_hit
    (hHit : (onGrid? tieUp rank e).isSome = true)
    (hGrid : 3 ≤ e ∧ e ≤ 18) :
    ∃ x e' : Nat, shortest tieUp rank = ⟨x, e'⟩ ∧
      10 ^ e ∣ x * 10 ^ e' ∧ RoundsTo (x * 10 ^ e') 1 rank := by
  have hScale := hRank.scale_bounds
  obtain ⟨⟨x, f⟩, hFound, hLeast⟩ :
      ∃ d, search tieUp rank (scale rank - 1) 17 = some d ∧
        (e : Int) ≤ d.exponent :=
    exists_search_eq_some hHit (by omega) (by omega)
  replace hLeast : (e : Int) ≤ f := hLeast
  obtain ⟨f, rfl⟩ := Int.eq_ofNat_of_zero_le (by omega : 0 ≤ f)
  rcases exists_strip_whole 17 x f with ⟨x', e', hStrip, hValue⟩
  have hInside := (readsBack_whole_iff x f).mp <|
    readsBack_iff.mpr (roundsTo_of_search hFound)
  refine ⟨x', e', ?_, ?_, hValue ▸ hInside⟩
  · rw [shortest, hFound]
    exact hStrip
  · rw [hValue]
    exact Nat.dvd_mul_left_of_dvd
      (Nat.pow_dvd_pow 10 (Int.ofNat_le.mp hLeast)) x

/-
  The shortest decimal ends in three zeros, and it is the
  multiple of ten thousand among the reals, if there is one.
-/
theorem exists_shortest (tieUp : Bool) :
    ∃ x e : Nat, shortest tieUp rank = ⟨x, e⟩ ∧
      RoundsTo (x * 10 ^ e) 1 rank ∧ 1000 ∣ x * 10 ^ e ∧
      ∀ n, RoundsTo n 1 rank → 10000 ∣ n → x * 10 ^ e = n := by
  rcases hRank.exists_shortest_of_hit
    (hRank.isSome_onGrid?_three tieUp) (by decide) with
    ⟨x, e, hShortest, hMultiple, hInside⟩
  refine ⟨x, e, hShortest, hInside, hMultiple, ?_⟩
  intro n hInside' hMultiple'
  rcases hRank.exists_shortest_of_hit
    (hRank.isSome_onGrid?_four tieUp hInside' hMultiple')
    (by decide) with
    ⟨x', e', hShortest', hMultiple, _⟩
  rw [hShortest] at hShortest'
  cases hShortest'
  have hNear := hRank.not_far _ hInside
  have hNear' := hRank.not_far _ hInside'
  omega

/- The magnitude belongs to a number that is finite and not zero. -/
theorem rank_bounds : 0 < rank ∧ rank < rankLimit := by
  have hLow := hRank.low
  constructor
  · by_contra hZero
    have hUnits := hRank.units_eq
    obtain rfl : rank = 0 := by omega
    have hNone : 0 = u * one := hUnits
    have hSome : 0 < u * one := Nat.mul_pos (by omega) one_pos
    omega
  · by_contra hLarge
    have hLimit : 2 ^ 64 * one < units rankLimit := by
      decide +kernel
    have hMore : units rankLimit ≤ units rank :=
      units_strictMono.monotone (Nat.not_lt.mp hLarge)
    rw [hRank.units_eq] at hMore
    exact absurd (hLimit.trans_le hMore)
      (Nat.not_lt.mpr (Nat.mul_le_mul_right one hRank.high))

end Surrounds

end Binary64

------------------------------------------------------------
-- Written Long Integers
------------------------------------------------------------

namespace NumberNotation

open Binary64 (IsLong)

variable {ν : NumberNotation} {n : Nat}

/- Numbers are written out, and whole ones without a point. -/
structure WritesOut (ν : NumberNotation) : Prop where
  positional : ∀ e, ν.positional e = true
  wholePoint : ν.wholePoint = false

/- A whole decimal is then written as a numeral. -/
theorem WritesOut.decimalText_eq
    (hPlain : ν.WritesOut)
    {x : Nat}
    (hPositive : 0 < x)
    (e : Nat) :
    ν.decimalText ⟨x, e⟩ = Digits.write (x * 10 ^ e) := by
  rw [Digits.write_mul_pow hPositive, decimalText,
    if_pos (hPlain.positional _), positionalText,
    if_pos (Int.natCast_nonneg e), hPlain.wholePoint]
  simp

/-
  The number nearest to a long integer is written as a whole
  number that is at most 3072 away and ends in three zeros.  A
  multiple of ten thousand is written itself.
-/
theorem WritesOut.exists_render_long
    (hPlain : ν.WritesOut)
    (hLong : IsLong n) :
    ∃ m, ν.render (Binary64.ofNat n) = Digits.text m ∧
      n ≤ m + 3072 ∧ m ≤ n + 3072 ∧ 1000 ∣ m ∧
      (10000 ∣ n → m = n) := by
  rcases Binary64.exists_surrounds_nearest hLong with ⟨u, hRank⟩
  rcases hRank.rank_bounds with ⟨hPositive, hFinite⟩
  rcases hRank.exists_shortest ν.tieUp with
    ⟨x, e, hShortest, hInside, hThousand, hTenThousand⟩
  have hNearest := Binary64.roundsTo_nearest n Nat.one_pos
  have hNear := hRank.not_far _ hNearest
  have hNear' := hRank.not_far _ hInside
  have hLow := hRank.low
  have hDigits : 0 < x := by
    by_contra hZero
    obtain rfl : x = 0 := by omega
    omega
  refine ⟨x * 10 ^ e, ?_, by omega, by omega, hThousand,
    hTenThousand n hNearest⟩
  have hNumber : Binary64.ofNat n = .finite false ⟨_, hFinite⟩ := by
    rw [Binary64.ofNat, Binary64.ofRatio, dif_pos hFinite]
  rw [hNumber, render, if_neg hPositive.ne', hShortest,
    hPlain.decimalText_eq hDigits]
  simp [Digits.text]

end NumberNotation

end ManifestRecipes
