import ManifestRecipes.Proofs.Failure
import ManifestRecipes.Proofs.Text
import ManifestRecipes.Quantity

/-
  Quantities that are read and written.

  A quantity is written as a numeral of a 64-bit number and
  the suffix of a unit.  Every text so written is read, since
  no number of steps that it can stand for is beyond 128 bits.
  Written again, in its own unit or in another one, a quantity
  is cut to a whole count, which is read back as long as it
  has 64 bits.

  Key definitions include:
    * `Quantity.Unit.IsSuffix`
    * `Quantity.Unit.suffixes`
    * `Quantity.Written`
    * `Quantity.Amounts`
    * `Quantity.IsCount`

  Main declarations:
    * `Quantity.read_eq_ok_iff`
    * `Quantity.isError_read_iff`
    * `Quantity.Amounts.lt`
    * `Quantity.written_text`
    * `Quantity.le_relative_iff`
    * `Quantity.read_text_inUnit_iff`
    * `Quantity.read_exact`
-/

namespace ManifestRecipes

namespace Quantity

------------------------------------------------------------
-- Units
------------------------------------------------------------

namespace Unit

/- A suffix of a unit; kilo has a second one. -/
def IsSuffix (s : String) (u : Unit) : Prop :=
  s = u.suffix ∨ (u = .kilo ∧ s = "K")

/- The suffixes of a unit are read as the unit. -/
theorem ofSuffix?_eq_some_iff
    {s : String}
    {u : Unit} :
    ofSuffix? s = some u ↔ IsSuffix s u := by
  unfold ofSuffix? IsSuffix
  constructor
  · intro hRead
    split_ifs at hRead with hCapital
    · cases hRead
      exact Or.inr ⟨rfl, hCapital⟩
    · left
      have hFound := List.find?_some hRead
      exact (of_decide_eq_true hFound).symm
  · intro hSuffix
    rcases hSuffix with rfl | ⟨rfl, rfl⟩
    · cases u <;> decide
    · rfl

/- The suffixes of all units. -/
def suffixes : List String :=
  ["m", "", "k", "K", "M", "G", "T", "P",
   "Ki", "Mi", "Gi", "Ti", "Pi"]

/- A suffix belongs to some unit when it is one of them. -/
theorem exists_isSuffix_iff {s : String} :
    (∃ u, IsSuffix s u) ↔ s ∈ suffixes := by
  constructor
  · intro hSuffix
    rcases hSuffix with ⟨u, rfl | ⟨rfl, rfl⟩⟩
    · cases u <;> decide
    · decide
  · intro hMember
    have hRead : ∀ s ∈ suffixes, (ofSuffix? s).isSome = true := by
      decide
    rcases Option.isSome_iff_exists.mp (hRead s hMember) with
      ⟨u, hUnit⟩
    exact ⟨u, ofSuffix?_eq_some_iff.mp hUnit⟩

/- A suffix belongs to one unit only. -/
theorem IsSuffix.unique
    {s : String}
    {u v : Unit}
    (hLeft : IsSuffix s u)
    (hRight : IsSuffix s v) :
    u = v := by
  rw [← ofSuffix?_eq_some_iff] at hLeft hRight
  exact Option.some.inj (hLeft.symm.trans hRight)

/- No suffix goes on with the digits or has a point before it. -/
theorem IsSuffix.head
    {s : String}
    {u : Unit}
    (hSuffix : IsSuffix s u) :
    Ends Digits.isDigit s.toList ∧ s.toList.head? ≠ some '.' := by
  rcases hSuffix with rfl | ⟨rfl, rfl⟩
  · cases u <;> simp [suffix, Digits.isDigit]
  · simp [Digits.isDigit]

theorem scale_pos (u : Unit) : 0 < u.scale := by
  cases u <;> decide

/- A 64-bit count of any unit has less than 128 bits. -/
theorem absolute?_eq_some
    {n : Nat}
    (hBound : n < Nat.pow 2 64)
    (u : Unit) :
    u.absolute? n = some (n * u.scale) := by
  have hScale : u.scale ≤ Nat.pow 2 64 := by
    cases u <;> decide
  have hProduct : n * u.scale < Nat.pow 2 128 := by
    calc
      n * u.scale < Nat.pow 2 64 * Nat.pow 2 64 :=
        Nat.mul_lt_mul_of_lt_of_le hBound hScale (by decide)
      _ = Nat.pow 2 128 := by decide
  exact Option.filter_eq_some_iff.mpr ⟨rfl, decide_eq_true hProduct⟩

end Unit

------------------------------------------------------------
-- Texts
------------------------------------------------------------

/- A text consists of a numeral of a 64-bit number and a suffix. -/
def Written (text : String) (n : Nat) (u : Unit) : Prop :=
  ∃ digits suffix, text.toList = digits ++ suffix.toList ∧
    digits ≠ [] ∧ (∀ c ∈ digits, Digits.isDigit c = true) ∧
    Digits.value digits = n ∧ n < Nat.pow 2 64 ∧ u.IsSuffix suffix

variable {text : String} {n : Nat} {u : Unit} {q : Quantity}

/- A numeral and the suffix of a unit are read as an amount of it. -/
theorem ofParts_eq_ok_iff
    {digits : List Char}
    {suffix : String}
    (hGiven : digits ≠ [])
    (hDigits : ∀ c ∈ digits, Digits.isDigit c = true) :
    ofParts digits suffix = .ok q ↔
      Digits.value digits < Nat.pow 2 64 ∧ q.unit.IsSuffix suffix ∧
        q.absolute = Digits.value digits * q.unit.scale := by
  have hRead : ∀ n, Digits.readUnsigned64? digits = some n ↔
      Digits.value digits = n ∧ n < Nat.pow 2 64 :=
    fun n => Digits.readUnsigned64?_eq_some_iff hGiven hDigits
  unfold ofParts
  rw [← Unit.ofSuffix?_eq_some_iff]
  cases hUnit : Unit.ofSuffix? suffix with
  | none => simp
  | some u =>
      by_cases hBound : Digits.value digits < Nat.pow 2 64
      · have hValue := (hRead _).mpr ⟨rfl, hBound⟩
        rcases q with ⟨absolute, v⟩
        simp only [hValue, Option.bind_some,
          Unit.absolute?_eq_some hBound, Except.ok.injEq,
          mk.injEq, hBound, Option.some.injEq, true_and]
        constructor
        · intro hSame
          rcases hSame with ⟨rfl, rfl⟩
          exact ⟨rfl, rfl⟩
        · intro hSame
          rcases hSame with ⟨rfl, rfl⟩
          exact ⟨rfl, rfl⟩
      · have hNone : Digits.readUnsigned64? digits = none := by
          rw [Option.eq_none_iff_forall_ne_some]
          intro n hSome
          rcases (hRead n).mp hSome with ⟨rfl, hSmall⟩
          exact hBound hSmall
        simp only [hNone, Option.bind_none]
        constructor
        · intro hError
          cases hError
        · intro hParts
          exact absurd hParts.1 hBound

theorem readChars_append
    {digits : List Char}
    {suffix : String}
    (hGiven : digits ≠ [])
    (hDigits : ∀ c ∈ digits, Digits.isDigit c = true)
    (hSuffix : u.IsSuffix suffix) :
    readChars (digits ++ suffix.toList) = ofParts digits suffix := by
  rcases hSuffix.head with ⟨hEnds, hPoint⟩
  unfold readChars
  simp only [takeWhile_append hDigits hEnds,
    dropWhile_append hDigits hEnds, String.ofList_toList,
    List.isEmpty_iff, hGiven, hPoint, if_false]

/- Reading a text yields what is written there. -/
theorem readChars_eq_ok_iff {cs : List Char} :
    readChars cs = .ok q ↔
      ∃ n, Written (String.ofList cs) n q.unit ∧
        q.absolute = n * q.unit.scale := by
  constructor
  · intro hRead
    unfold readChars at hRead
    simp only at hRead
    split_ifs at hRead with hNone
    rw [List.isEmpty_iff] at hNone
    have hDigits : ∀ c ∈ cs.takeWhile Digits.isDigit,
        Digits.isDigit c = true :=
      fun c hMember => List.mem_takeWhile_imp hMember
    rcases (ofParts_eq_ok_iff hNone hDigits).mp hRead with
      ⟨hBound, hSuffix, hAbsolute⟩
    refine ⟨_, ⟨cs.takeWhile Digits.isDigit, _, ?_, hNone,
      hDigits, rfl, hBound, hSuffix⟩, hAbsolute⟩
    simp
  · rintro ⟨n, ⟨digits, suffix, hText, hGiven, hDigits, rfl,
      hBound, hSuffix⟩, hAbsolute⟩
    rw [String.toList_ofList] at hText
    rw [hText, readChars_append hGiven hDigits hSuffix]
    exact (ofParts_eq_ok_iff hGiven hDigits).mpr
      ⟨hBound, hSuffix, hAbsolute⟩

theorem read_eq_ok_iff_readChars :
    read text = .ok q ↔ readChars text.toList = .ok q := by
  unfold read
  cases readChars text.toList <;> simp [Except.mapError]

/- Quantities are read from the texts in which they are written. -/
theorem read_eq_ok_iff :
    read text = .ok q ↔
      ∃ n, Written text n q.unit ∧
        q.absolute = n * q.unit.scale := by
  rw [read_eq_ok_iff_readChars, readChars_eq_ok_iff,
    String.ofList_toList]

theorem Written.unique
    {m : Nat}
    {v : Unit}
    (hLeft : Written text n u)
    (hRight : Written text m v) :
    n = m ∧ u = v := by
  have hRead : read text = .ok ⟨n * u.scale, u⟩ :=
    read_eq_ok_iff.mpr ⟨n, hLeft, rfl⟩
  have hRead' : read text = .ok ⟨m * v.scale, v⟩ :=
    read_eq_ok_iff.mpr ⟨m, hRight, rfl⟩
  rw [hRead, Except.ok.injEq, mk.injEq] at hRead'
  rcases hRead' with ⟨hAbsolute, rfl⟩
  exact ⟨Nat.eq_of_mul_eq_mul_right u.scale_pos hAbsolute, rfl⟩

/- Reading fails where no quantity is written. -/
theorem isError_read_iff :
    (∃ f, read text = .error f) ↔ ¬ ∃ n u, Written text n u := by
  constructor
  · intro hError hWritten
    rcases hError with ⟨f, hError⟩
    rcases hWritten with ⟨n, u, hWritten⟩
    have hRead : read text = .ok ⟨n * u.scale, u⟩ :=
      read_eq_ok_iff.mpr ⟨n, hWritten, rfl⟩
    rw [hError] at hRead
    cases hRead
  · intro hNone
    cases hRead : read text with
    | error f => exact ⟨f, rfl⟩
    | ok q =>
        rcases read_eq_ok_iff.mp hRead with ⟨n, hWritten, _⟩
        exact absurd ⟨n, q.unit, hWritten⟩ hNone

------------------------------------------------------------
-- Amounts
------------------------------------------------------------

/- A text stands for a number of steps. -/
def Amounts (text : String) (a : Nat) : Prop :=
  ∃ n u, Written text n u ∧ n * u.scale = a

/- The steps are those of the quantity that is read. -/
theorem amounts_iff {a : Nat} :
    Amounts text a ↔ ∃ q, read text = .ok q ∧ q.absolute = a := by
  constructor
  · rintro ⟨n, u, hWritten, rfl⟩
    exact ⟨⟨n * u.scale, u⟩,
      read_eq_ok_iff.mpr ⟨n, hWritten, rfl⟩, rfl⟩
  · rintro ⟨q, hRead, rfl⟩
    rcases read_eq_ok_iff.mp hRead with ⟨n, hWritten, hAbsolute⟩
    exact ⟨n, q.unit, hWritten, hAbsolute.symm⟩

/- A text that can be read stands for less than 124 bits of steps. -/
theorem Amounts.lt
    {a : Nat}
    (hAmounts : Amounts text a) :
    a < 2 ^ 124 := by
  rcases hAmounts with
    ⟨n, u, ⟨_, _, _, _, _, _, hBound, _⟩, rfl⟩
  have hScale : u.scale ≤ 2 ^ 60 := by
    cases u <;> decide
  calc
    n * u.scale < Nat.pow 2 64 * 2 ^ 60 :=
      Nat.mul_lt_mul_of_lt_of_le hBound hScale (by decide)
    _ = 2 ^ 124 := by decide

------------------------------------------------------------
-- Whole Counts
------------------------------------------------------------

/- A 64-bit count is read back with its unit. -/
theorem written_text
    (hBound : n < Nat.pow 2 64)
    (u : Unit) :
    Written (Digits.text n ++ u.suffix) n u := by
  refine ⟨Digits.write n, u.suffix, ?_, Digits.write_ne_nil n,
    fun _ => Digits.isDigit_of_mem_write, Digits.value_write n,
    hBound, Or.inl rfl⟩
  simp [Digits.text]

/- The whole count of a unit is the largest that is not above. -/
theorem le_relative_iff {m : Nat} :
    m ≤ q.relative ↔ m * q.unit.scale ≤ q.absolute := by
  exact Nat.le_div_iff_mul_le q.unit.scale_pos

theorem relative_of_absolute_eq
    (hAbsolute : q.absolute = n * q.unit.scale) :
    q.relative = n := by
  rw [relative, Unit.relative, hAbsolute]
  exact Nat.mul_div_cancel n q.unit.scale_pos

/- A count of a unit is read back when it has 64 bits. -/
theorem read_count_iff
    (n : Nat)
    (u : Unit)
    (r : Quantity) :
    read (Digits.text n ++ u.suffix) = .ok r ↔
      n < Nat.pow 2 64 ∧ r = ⟨n * u.scale, u⟩ := by
  have hDigits : ∀ c ∈ Digits.write n, Digits.isDigit c = true :=
    fun _ => Digits.isDigit_of_mem_write
  have hOwn : u.IsSuffix u.suffix := Or.inl rfl
  rw [read_eq_ok_iff_readChars, String.toList_append, Digits.text,
    String.toList_ofList,
    readChars_append (Digits.write_ne_nil n) hDigits hOwn,
    ofParts_eq_ok_iff (Digits.write_ne_nil n) hDigits,
    Digits.value_write]
  apply and_congr_right
  intro _
  constructor
  · rintro ⟨hSuffix, hAbsolute⟩
    rcases r with ⟨absolute, v⟩
    obtain rfl : u = v := hOwn.unique hSuffix
    exact congrArg (Quantity.mk · u) hAbsolute
  · rintro rfl
    exact ⟨hOwn, rfl⟩

/- What is written in another unit is read as its whole count. -/
theorem read_text_inUnit_iff
    (q : Quantity)
    (u : Unit)
    (r : Quantity) :
    read (q.inUnit u).text = .ok r ↔
      (q.inUnit u).relative < Nat.pow 2 64 ∧
        r = ⟨(q.inUnit u).relative * u.scale, u⟩ := by
  exact read_count_iff (q.inUnit u).relative u r

/-
  A quantity is a count of its unit: its steps are those of so
  many units and have less than 128 bits, and the count comes
  back as a number and as a text.  In each unit it is written
  as the largest whole count that is not above, which is read
  back when it has 64 bits.
-/
structure IsCount (q : Quantity) (n : Nat) : Prop where
  absolute : q.absolute = n * q.unit.scale
  fits : q.unit.absolute? n = some q.absolute
  bounded : q.absolute < Nat.pow 2 128
  relative : q.relative = n
  reread : read q.text = .ok q
  largest : ∀ u k,
    k ≤ (q.inUnit u).relative ↔ k * u.scale ≤ q.absolute
  converted : ∀ u r,
    read (q.inUnit u).text = .ok r ↔
      (q.inUnit u).relative < Nat.pow 2 64 ∧
        r = ⟨(q.inUnit u).relative * u.scale, u⟩

theorem isCount_of_absolute_eq
    (hBound : n < Nat.pow 2 64)
    (hAbsolute : q.absolute = n * q.unit.scale) :
    q.IsCount n := by
  have hFits := q.unit.absolute?_eq_some hBound
  have hRelative := relative_of_absolute_eq hAbsolute
  refine ⟨hAbsolute, hAbsolute ▸ hFits, ?_, hRelative, ?_, ?_,
    read_text_inUnit_iff q⟩
  · rw [← hAbsolute] at hFits
    exact of_decide_eq_true (Option.filter_eq_some_iff.mp hFits).2
  · rw [text, hRelative, read_count_iff, ← hAbsolute]
    exact ⟨hBound, rfl⟩
  · intro u k
    exact le_relative_iff

/-
  The texts that are read are the numerals of 64-bit numbers
  with a suffix behind them, and what is read is the count of
  the unit that is written there.
-/
theorem read_exact (text : String) :
    ((∃ q, read text = .ok q) ↔
      ∃ digits suffix, text.toList = digits ++ suffix.toList ∧
        digits ≠ [] ∧ (∀ c ∈ digits, Digits.isDigit c = true) ∧
        Digits.value digits < Nat.pow 2 64 ∧
        suffix ∈ Unit.suffixes) ∧
    ∀ q, read text = .ok q ↔
      ∃ n, Written text n q.unit ∧ q.IsCount n := by
  constructor
  · constructor
    · rintro ⟨q, hRead⟩
      rcases read_eq_ok_iff.mp hRead with
        ⟨_, ⟨digits, suffix, hText, hGiven, hDigits, rfl, hBound,
          hSuffix⟩, _⟩
      exact ⟨digits, suffix, hText, hGiven, hDigits, hBound,
        Unit.exists_isSuffix_iff.mp ⟨q.unit, hSuffix⟩⟩
    · rintro ⟨digits, suffix, hText, hGiven, hDigits, hBound,
        hMember⟩
      rcases Unit.exists_isSuffix_iff.mpr hMember with ⟨u, hSuffix⟩
      exact ⟨⟨Digits.value digits * u.scale, u⟩,
        read_eq_ok_iff.mpr ⟨_, ⟨digits, suffix, hText, hGiven,
          hDigits, rfl, hBound, hSuffix⟩, rfl⟩⟩
  · intro q
    rw [read_eq_ok_iff]
    apply exists_congr
    intro n
    apply and_congr_right
    rintro ⟨_, _, _, _, _, _, hBound, _⟩
    exact ⟨isCount_of_absolute_eq hBound, IsCount.absolute⟩

end Quantity

end ManifestRecipes
