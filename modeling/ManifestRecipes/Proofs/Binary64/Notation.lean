import ManifestRecipes.Binary64.Notation
import ManifestRecipes.Proofs.Binary64.Shortest

/-
  Written numbers are read back.

  In every notation the digits of a decimal stand before,
  around or behind a point, or before an exponent.  All of
  these are read as the decimal, perhaps with zeros at its
  end, and so the text of a finite number is read as that
  number.

  Key definitions include:
    * `Numeral.mark`

  Main declarations:
    * `Numeral.read?_whole`
    * `Numeral.read?_point`
    * `NumberNotation.read?_decimalText`
    * `NumberNotation.read?_render_finite`
-/

namespace ManifestRecipes

------------------------------------------------------------
-- Numerals
------------------------------------------------------------

namespace Numeral

open Digits

variable {whole fraction rest : List Char}

/- The sign in front of a numeral. -/
def mark (negative : Bool) : List Char :=
  if negative then ['-'] else []

/- Digits have no case. -/
theorem toLower_of_isDigit
    {c : Char}
    (hDigit : isDigit c = true) :
    c.toLower = c := by
  simp only [isDigit, Bool.and_eq_true, decide_eq_true_eq,
    Char.le_def, UInt32.le_iff_toNat_le, Char.reduceVal,
    UInt32.reduceToNat] at hDigit
  unfold Char.toLower
  rw [dif_neg]
  simp only [ge_iff_le, UInt32.le_iff_toNat_le, Char.reduceVal,
    UInt32.reduceToNat]
  omega

/- A sign is taken off the digits that follow it. -/
theorem read?_signed
    (negative : Bool)
    (hGiven : whole ≠ [])
    (hWhole : ∀ c ∈ whole, isDigit c = true) :
    read? (mark negative ++ (whole ++ rest)) =
      unsigned? negative (whole ++ rest) := by
  obtain ⟨c, cs, rfl⟩ := List.exists_cons_of_ne_nil hGiven
  have hDigit := hWhole c List.mem_cons_self
  have hSign :
      sign (mark negative ++ (c :: cs ++ rest)) =
        (negative, c :: cs ++ rest) := by
    cases negative with
    | true => rfl
    | false =>
        have hNoSign := ne_sign_of_isDigit hDigit
        unfold sign
        split
        · rename_i hHead
          exact absurd (List.cons.inj hHead).1 hNoSign.2
        · rename_i hHead
          exact absurd (List.cons.inj hHead).1 hNoSign.1
        · rfl
  unfold read?
  rw [hSign]
  simp only [List.cons_append, List.map_cons,
    toLower_of_isDigit hDigit]
  split
  · rename_i hName
    exact absurd (List.cons.inj hName).1
      (ne_of_class hDigit (by decide))
  · rename_i hName
    exact absurd (List.cons.inj hName).1
      (ne_of_class hDigit (by decide))
  · rename_i hName
    exact absurd (List.cons.inj hName).1
      (ne_of_class hDigit (by decide))
  · rfl

/- Digits without a point. -/
theorem read?_whole
    (negative : Bool)
    (hGiven : whole ≠ [])
    (hWhole : ∀ c ∈ whole, isDigit c = true)
    (hEnds : Ends isDigit rest)
    (hNoPoint : rest.head? ≠ some '.') :
    read? (mark negative ++ (whole ++ rest)) =
      (exponent? rest).map fun e =>
        .decimal negative (value whole) e := by
  rw [read?_signed negative hGiven hWhole]
  unfold unsigned?
  rw [takeWhile_append hWhole hEnds, dropWhile_append hWhole hEnds]
  simp only
  split
  · exact absurd rfl hNoPoint
  · rw [if_neg (by simp [hGiven])]
    cases exponent? rest <;> simp

/- Digits around a point. -/
theorem read?_point
    (negative : Bool)
    (hGiven : whole ≠ [])
    (hWhole : ∀ c ∈ whole, isDigit c = true)
    (hFraction : ∀ c ∈ fraction, isDigit c = true)
    (hEnds : Ends isDigit rest) :
    read? (mark negative ++
        (whole ++ '.' :: (fraction ++ rest))) =
      (exponent? rest).map fun e =>
        .decimal negative (value (whole ++ fraction))
          (e - fraction.length) := by
  have hPoint : Ends isDigit ('.' :: (fraction ++ rest)) := by
    rw [ends_cons_iff]
    decide
  rw [read?_signed negative hGiven hWhole]
  unfold unsigned?
  rw [takeWhile_append hWhole hPoint, dropWhile_append hWhole hPoint]
  simp only
  rw [takeWhile_append hFraction hEnds,
    dropWhile_append hFraction hEnds, if_neg (by simp [hGiven])]
  cases exponent? rest <;> rfl

/- Digits alone are a whole number. -/
theorem read?_digits
    (negative : Bool)
    (hGiven : whole ≠ [])
    (hWhole : ∀ c ∈ whole, isDigit c = true) :
    read? (mark negative ++ whole) =
      some (.decimal negative (value whole) 0) := by
  have hRead :=
    read?_whole negative hGiven hWhole ends_nil (by simp)
  rwa [List.append_nil] at hRead

/- Digits around a point alone. -/
theorem read?_fixed
    (negative : Bool)
    (hGiven : whole ≠ [])
    (hWhole : ∀ c ∈ whole, isDigit c = true)
    (hFraction : ∀ c ∈ fraction, isDigit c = true) :
    read? (mark negative ++ (whole ++ '.' :: fraction)) =
      some (.decimal negative (value (whole ++ fraction))
        (-fraction.length)) := by
  have hRead :=
    read?_point negative hGiven hWhole hFraction ends_nil
  rw [List.append_nil] at hRead
  rw [hRead, ← Int.zero_sub]
  rfl

/- Digits behind a point and zeros. -/
theorem read?_leading
    {digits : List Char}
    (negative : Bool)
    (k : Nat)
    (hDigits : ∀ c ∈ digits, isDigit c = true) :
    read? (mark negative ++
        ('0' :: '.' :: List.replicate k '0' ++ digits)) =
      some (.decimal negative (value digits)
        (-(k + digits.length))) := by
  have hZero : ∀ c ∈ ['0'], isDigit c = true :=
    fun _ => isDigit_of_mem_zeros (k := 1)
  have hLater :
      ∀ c ∈ List.replicate k '0' ++ digits, isDigit c = true := by
    intro c hMember
    rcases List.mem_append.mp hMember with hMember | hMember
    · exact isDigit_of_mem_zeros hMember
    · exact hDigits c hMember
  have hValue :
      value (['0'] ++ (List.replicate k '0' ++ digits)) =
        value digits :=
    (value_zeros_append 1 _).trans (value_zeros_append k digits)
  have hRead := read?_fixed negative
    (List.cons_ne_nil '0' []) hZero hLater
  rw [hValue, List.length_append, List.length_replicate,
    Int.natCast_add] at hRead
  exact hRead

/- A written exponent is read back. -/
theorem exponent?_written
    (plus : Bool)
    (e : Int) :
    exponent? ('e' ::
      ((if plus && 0 ≤ e then ['+'] else []) ++ writeInt e)) =
      some e := by
  change readInt? 10
    ((if plus && 0 ≤ e then ['+'] else []) ++ writeInt e) = some e
  split_ifs with hPlus
  · have hPositive : 0 ≤ e := by
      simpa using (Bool.and_eq_true_iff.mp hPlus).2
    have hRead := readNat?_of_digits (write_ne_nil e.natAbs)
      fun _ => isDigit_of_mem_write
    rw [writeInt, if_neg (by omega)]
    simp only [List.singleton_append, readInt?, hRead, value_write,
      Option.map_some, Option.some.injEq, Int.ofNat_eq_natCast]
    omega
  · exact readInt?_writeInt e

end Numeral

------------------------------------------------------------
-- Decimals
------------------------------------------------------------

namespace NumberNotation

open Digits

/- Digits and the zeros behind them are digits. -/
theorem isDigit_of_mem_extended
    {n k : Nat}
    {c : Char}
    (hMember : c ∈ write n ++ List.replicate k '0') :
    isDigit c = true := by
  rcases List.mem_append.mp hMember with hDigit | hZero
  · exact isDigit_of_mem_write hDigit
  · exact isDigit_of_mem_zeros hZero

/- A decimal without a fraction is read as such. -/
theorem read?_positionalText_whole
    (ν : NumberNotation)
    (negative : Bool)
    (n : Nat)
    {e : Int}
    (hWhole : 0 ≤ e) :
    ∃ k : Nat,
      Numeral.read? (Numeral.mark negative ++
          ν.positionalText (write n) e) =
        some (.decimal negative (n * 10 ^ k) (e - k)) := by
  have hGiven : write n ++ List.replicate e.toNat '0' ≠ [] :=
    List.append_ne_nil_of_left_ne_nil (write_ne_nil n) _
  unfold positionalText
  simp only
  rw [if_pos hWhole]
  by_cases hPoint : ν.wholePoint
  · have hValue :
        value (write n ++ List.replicate e.toNat '0' ++ ['0']) =
          n * 10 ^ (e.toNat + 1) := by
      rw [List.append_assoc, ← List.replicate_succ',
        value_append_zeros, value_write]
    have hZero : ∀ c ∈ ['0'], isDigit c = true :=
      fun _ => isDigit_of_mem_zeros (k := 1)
    have hExponent :
        -((['0'] : List Char).length : Int) = e - ↑(e.toNat + 1) := by
      simp only [List.length_singleton]
      omega
    refine ⟨e.toNat + 1, ?_⟩
    rw [if_pos hPoint, Numeral.read?_fixed negative hGiven
      (fun _ => isDigit_of_mem_extended) hZero, hValue, hExponent]
  · have hExponent : (0 : Int) = e - ↑e.toNat := by omega
    refine ⟨e.toNat, ?_⟩
    rw [if_neg hPoint, List.append_nil,
      Numeral.read?_digits negative hGiven
        fun _ => isDigit_of_mem_extended,
      value_append_zeros, value_write, hExponent]

/- A decimal with a fraction is read as such. -/
theorem read?_positionalText_fraction
    (ν : NumberNotation)
    (negative : Bool)
    (n : Nat)
    {e : Int}
    (hFraction : e < 0) :
    Numeral.read? (Numeral.mark negative ++
        ν.positionalText (write n) e) =
      some (.decimal negative n e) := by
  have hDigits : ∀ c ∈ write n, isDigit c = true :=
    fun _ => isDigit_of_mem_write
  have hGiven := write_ne_nil n
  have hValue := value_write n
  unfold positionalText
  simp only
  rw [if_neg (by omega)]
  generalize write n = digits at hDigits hGiven hValue
  by_cases hInside : 0 < (digits.length : Int) + e
  · have hFirst : digits.take (digits.length + e).toNat ≠ [] := by
      simp [hGiven, hInside]
    have hExponent :
        -((digits.drop (digits.length + e).toNat).length : Int) =
          e := by
      rw [List.length_drop]
      omega
    rw [if_pos hInside, Numeral.read?_fixed negative hFirst
      (fun c hMember => hDigits c (List.mem_of_mem_take hMember))
      (fun c hMember => hDigits c (List.mem_of_mem_drop hMember)),
      List.take_append_drop, hValue, hExponent]
  · have hExponent :
        -(((-((digits.length : Int) + e)).toNat : Int) +
          digits.length) = e := by
      omega
    rw [if_neg hInside, Numeral.read?_leading negative _ hDigits,
      hValue, hExponent]

/- Digits before an exponent are read as the decimal. -/
theorem read?_scientificText
    (ν : NumberNotation)
    (negative : Bool)
    (n : Nat)
    (e : Int) :
    Numeral.read? (Numeral.mark negative ++
        ν.scientificText (write n) e) =
      some (.decimal negative n e) := by
  have hDigits : ∀ c ∈ write n, isDigit c = true :=
    fun _ => isDigit_of_mem_write
  have hValue := value_write n
  obtain ⟨c, cs, hText⟩ :=
    List.exists_cons_of_ne_nil (write_ne_nil n)
  rw [hText] at hDigits hValue ⊢
  unfold scientificText
  simp only
  have hExponent := Numeral.exponent?_written ν.plusSign
    ((c :: cs).length + e - 1)
  generalize (if ν.plusSign && _ then ['+'] else []) ++ writeInt _ =
    power at hExponent ⊢
  have hMark : Ends isDigit ('e' :: power) :=
    ends_cons_iff.mpr (by decide)
  cases cs with
  | nil =>
      have hRead := Numeral.read?_whole negative
        (List.cons_ne_nil c []) hDigits hMark (by simp)
      rw [hExponent, hValue] at hRead
      refine hRead.trans ?_
      simp
  | cons c' cs =>
      have hFirst : ∀ x ∈ [c], isDigit x = true :=
        List.forall_mem_singleton.mpr (hDigits c List.mem_cons_self)
      have hRead := Numeral.read?_point negative
        (List.cons_ne_nil c []) hFirst
        (fun x hMember => hDigits x (List.mem_cons_of_mem c hMember))
        hMark
      have hAll : value ([c] ++ c' :: cs) = n := hValue
      have hShifted :
          ((c :: c' :: cs).length : Int) + e - 1 -
            (c' :: cs).length = e := by
        rw [List.length_cons]
        omega
      rw [hExponent, hAll, Option.map_some, hShifted] at hRead
      exact hRead

/-
  The text of a decimal is read as the decimal, perhaps with
  zeros at its end.
-/
theorem read?_decimalText
    (ν : NumberNotation)
    (negative : Bool)
    (d : Decimal) :
    ∃ k : Nat,
      Numeral.read? (Numeral.mark negative ++
          ν.decimalText d) =
        some (.decimal negative (d.digits * 10 ^ k)
          (d.exponent - k)) := by
  unfold decimalText
  simp only
  split_ifs with hPositional
  · by_cases hWhole : 0 ≤ d.exponent
    · exact read?_positionalText_whole ν negative d.digits hWhole
    · refine ⟨0, ?_⟩
      rw [read?_positionalText_fraction ν negative d.digits (by omega)]
      simp
  · refine ⟨0, ?_⟩
    rw [read?_scientificText]
    simp

------------------------------------------------------------
-- Numbers
------------------------------------------------------------

/- The text of a finite number is read as the number. -/
theorem read?_render_finite
    (ν : NumberNotation)
    (negative : Bool)
    (r : Fin Binary64.rankLimit) :
    Binary64.read? (ν.render (.finite negative r)).toList =
      some (.finite negative r) := by
  unfold render
  simp only
  rw [String.toList_ofList, Binary64.read?, ← Numeral.mark]
  by_cases hZero : r.val = 0
  · obtain ⟨k, hRead⟩ := ν.read?_decimalText negative ⟨0, 0⟩
    have hRank : r = ⟨0, by decide⟩ := Fin.ext hZero
    rw [if_pos hZero, hRead, Option.map_some, Option.some.injEq,
      hRank]
    simp [Binary64.ofNumeral, Binary64.ofDecimal,
      Binary64.signedZero]
  · obtain ⟨k, hRead⟩ :=
      ν.read?_decimalText negative (Binary64.shortest ν.tieUp r.val)
    have hRounds :=
      Binary64.roundsTo_shortest ν.tieUp (Nat.pos_of_ne_zero hZero)
    rw [if_neg hZero, hRead, Option.map_some, Option.some.injEq]
    exact Binary64.ofDecimal_of_roundsTo negative
      (Nat.pos_of_ne_zero hZero)
      (Decimal.roundsTo_extended_iff.mpr hRounds)

end NumberNotation

end ManifestRecipes
