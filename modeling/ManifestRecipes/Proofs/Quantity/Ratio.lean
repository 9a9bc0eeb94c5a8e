import ManifestRecipes.Proofs.Quantity
import ManifestRecipes.Proofs.Unicode
import ManifestRecipes.Quantity.Ratio
import Mathlib.Data.Rat.Cast.Order
import Mathlib.Tactic.FieldSimp

/-
  Ratios that are read, written and compared.

  A ratio is written as a fraction of two numerals, as a
  decimal or as one numeral.  There may be blanks around the
  numerals of a fraction and around one that stands alone, but
  none in a decimal.  What is read is the rational number that
  is written, as long as both of its numbers are positive and
  have 64 bits, and the text of a ratio is one of its ways.
  Amounts are compared by the rational number as long as the
  products have 128 bits.

  Key definitions include:
    * `Ratio.Pads`
    * `Ratio.value`
    * `Ratio.WordSized`
    * `Ratio.Written`
    * `Ratio.Fits`

  Main declarations:
    * `Ratio.Written.value_eq`
    * `Ratio.read_eq_ok_iff`
    * `Ratio.written_text`
    * `Ratio.read_iff_written_and_text`
    * `Ratio.exceeded_iff`
-/

namespace ManifestRecipes

/- Digits have one byte each. -/
theorem Bytes.count_of_digits
    {cs : List Char}
    (hDigits : ∀ c ∈ cs, Digits.isDigit c = true) :
    Bytes.count cs = cs.length := by
  induction cs with
  | nil => rfl
  | cons c cs ih =>
      rw [List.forall_mem_cons] at hDigits
      have hSize : c.utf8Size = 1 := by
        have hBounds := hDigits.1
        simp only [Digits.isDigit, Bool.and_eq_true,
          decide_eq_true_eq, Char.le_def] at hBounds
        rw [Char.utf8Size_eq_one_iff]
        exact UInt32.le_trans hBounds.2 (by decide)
      rw [Bytes.count, ih hDigits.2, hSize, List.length_cons,
        Nat.add_comm]

namespace Ratio

------------------------------------------------------------
-- Written Ratios
------------------------------------------------------------

/- A numeral. -/
structure IsNumeral (cs : List Char) : Prop where
  given : cs ≠ []
  digits : ∀ c ∈ cs, Digits.isDigit c = true

/- A text is a numeral with blanks before and behind it. -/
structure Pads (cs numeral : List Char) : Prop where
  isNumeral : IsNumeral numeral
  blanks : ∃ before after, cs = before ++ numeral ++ after ∧
    (∀ c ∈ before, Unicode.isBlank c = true) ∧
    ∀ c ∈ after, Unicode.isBlank c = true

/- The rational number of a ratio. -/
def value (r : Ratio) : ℚ :=
  r.numerator / r.denominator

/- Both numbers of a ratio are positive and have 64 bits. -/
structure WordSized (r : Ratio) : Prop where
  numerator_pos : 0 < r.numerator
  numerator_lt : r.numerator < Nat.pow 2 64
  denominator_pos : 0 < r.denominator
  denominator_lt : r.denominator < Nat.pow 2 64

/-
  The ways to write a ratio, each with the rational number that
  is written.
-/
inductive Written : List Char → Ratio → ℚ → Prop where
  /- Two numerals with a slash between them. -/
  | fraction {n d ns ds : List Char}
      (hNumerator : Pads n ns)
      (hDenominator : Pads d ds) :
      Written (n ++ '/' :: d)
        ⟨Digits.value ns, Digits.value ds⟩
        (Digits.value ns / Digits.value ds)
  /- Digits with a point among them and at most 19 behind it. -/
  | decimal {whole places : List Char}
      (hDigits : IsNumeral (whole ++ places))
      (hPlaces : places.length ≤ 19) :
      Written (whole ++ '.' :: places)
        ⟨Digits.value (whole ++ places), 10 ^ places.length⟩
        (Digits.value whole +
          Digits.value places / 10 ^ places.length)
  /- One numeral. -/
  | whole {n ns : List Char}
      (hNumber : Pads n ns) :
      Written n ⟨Digits.value ns, 1⟩ (Digits.value ns)

variable {cs n d ns ds : List Char} {r : Ratio} {x : ℚ} {c : Char}

/- The rational number of the ratio is the one that is written. -/
theorem Written.value_eq (hWritten : Written cs r x) :
    r.value = x := by
  cases hWritten with
  | fraction _ _ => rfl
  | whole _ => simp [value]
  | @decimal whole places _ _ =>
      have hPower : (10 : ℚ) ^ places.length ≠ 0 :=
        pow_ne_zero _ (by decide)
      simp only [value, Digits.value_append, Nat.cast_add,
        Nat.cast_mul, Nat.cast_pow, Nat.cast_ofNat]
      field_simp

------------------------------------------------------------
-- Numerals
------------------------------------------------------------

theorem IsNumeral.pads (hNumeral : IsNumeral ns) : Pads ns ns :=
  ⟨hNumeral, [], [], by simp, by simp, by simp⟩

theorem isNumeral_write (n : Nat) : IsNumeral (Digits.write n) :=
  ⟨Digits.write_ne_nil n, fun _ => Digits.isDigit_of_mem_write⟩

/- A padded numeral consists of blanks and digits. -/
theorem Pads.not_mem
    (hPads : Pads n ns)
    (hOther : Unicode.isBlank c = false ∧ Digits.isDigit c = false) :
    c ∉ n := by
  rcases hPads with
    ⟨hNumeral, before, after, rfl, hBefore, hAfter⟩
  have hBlank : ∀ cs : List Char,
      (∀ c ∈ cs, Unicode.isBlank c = true) → c ∉ cs :=
    fun cs hBlanks hMember =>
      ne_of_class (hBlanks c hMember) hOther.1 rfl
  have hDigit : c ∉ ns := fun hMember =>
    ne_of_class (hNumeral.digits c hMember) hOther.2 rfl
  simp [hBlank before hBefore, hDigit, hBlank after hAfter]

theorem pads_iff :
    Pads n ns ↔ Unicode.trim n = ns ∧ IsNumeral ns := by
  constructor
  · rintro ⟨hNumeral, before, after, rfl, hBefore, hAfter⟩
    have hInner : ∀ c ∈ ns, Unicode.isBlank c = false :=
      fun c hMember => Unicode.isBlank_eq_false_of_isDigit
        (hNumeral.digits c hMember)
    exact ⟨Unicode.trim_append hNumeral.given hInner hBefore
      hAfter, hNumeral⟩
  · rintro ⟨rfl, hNumeral⟩
    exact ⟨hNumeral, Unicode.exists_eq_trim_append n⟩

/- A number is read from a numeral of 64 bits. -/
theorem number_eq_ok_iff {k : Nat} :
    number ns = .ok k ↔
      IsNumeral ns ∧ Digits.value ns = k ∧ k < Nat.pow 2 64 := by
  unfold number
  split_ifs with hOther
  · simp only [Bool.or_eq_true, List.isEmpty_iff,
      Bool.not_eq_true', List.all_eq_false] at hOther
    constructor
    · intro hError
      cases hError
    · rintro ⟨hNumeral, _⟩
      rcases hOther with hEmpty | ⟨c, hMember, hNoDigit⟩
      · exact absurd hEmpty hNumeral.given
      · exact absurd (hNumeral.digits c hMember) hNoDigit
  · simp only [Bool.or_eq_true, List.isEmpty_iff,
      Bool.not_eq_true', not_or, Bool.not_eq_false,
      List.all_eq_true] at hOther
    rw [and_iff_right ⟨hOther.1, hOther.2⟩,
      ← Digits.readUnsigned64?_eq_some_iff hOther.1 hOther.2]
    cases Digits.readUnsigned64? ns <;> simp

------------------------------------------------------------
-- Parts
------------------------------------------------------------

/- A ratio has two positive numbers. -/
theorem ofParts_eq_ok_iff {a b : Nat} :
    ofParts a b = .ok r ↔ r = ⟨a, b⟩ ∧ 0 < a ∧ 0 < b := by
  unfold ofParts
  split_ifs with hZero
  · simp only [Bool.or_eq_true, decide_eq_true_eq] at hZero
    constructor
    · intro hError
      cases hError
    · omega
  · simp only [Bool.or_eq_true, decide_eq_true_eq, not_or]
      at hZero
    rw [Except.ok.injEq, eq_comm]
    exact (and_iff_left ⟨by omega, by omega⟩).symm

/- A text is split where a character first is. -/
theorem splitAt?_eq_some_iff {before behind : List Char} :
    splitAt? c cs = some (before, behind) ↔
      cs = before ++ c :: behind ∧ c ∉ before := by
  unfold splitAt?
  constructor
  · intro hSplit
    split_ifs at hSplit with hMember
    rw [Option.some.injEq, Prod.mk.injEq] at hSplit
    rcases hSplit with ⟨rfl, rfl⟩
    have hRest : cs.dropWhile (· ≠ c) =
        c :: (cs.dropWhile (· ≠ c)).drop 1 := by
      cases hBehind : cs.dropWhile (· ≠ c) with
      | nil =>
          rw [List.dropWhile_eq_nil_iff] at hBehind
          have hOther := hBehind c (List.contains_iff_mem.mp hMember)
          simp at hOther
      | cons d rest =>
          have hGiven : cs.dropWhile (· ≠ c) ≠ [] :=
            hBehind ▸ List.cons_ne_nil d rest
          have hHead := List.head_dropWhile_not (· ≠ c) hGiven
          simp only [hBehind, List.head_cons] at hHead
          simpa using hHead
    constructor
    · calc
        cs = cs.takeWhile (· ≠ c) ++ cs.dropWhile (· ≠ c) :=
          List.takeWhile_append_dropWhile.symm
        _ = _ := congrArg _ hRest
    · intro hBefore
      simpa using List.mem_takeWhile_imp hBefore
  · rintro ⟨rfl, hBefore⟩
    have hRun : ∀ d ∈ before, decide (d ≠ c) = true := by
      intro d hMember
      simpa using ne_of_mem_of_not_mem hMember hBefore
    have hEnds : Ends (fun d => decide (d ≠ c)) (c :: behind) := by
      simp
    rw [if_pos (by simp), takeWhile_append hRun hEnds,
      dropWhile_append hRun hEnds]
    rfl

theorem splitAt?_eq_none_iff :
    splitAt? c cs = none ↔ c ∉ cs := by
  simp [splitAt?]

------------------------------------------------------------
-- Reading
------------------------------------------------------------

/- A fraction is read from two padded numerals. -/
theorem ofFraction_eq_ok_iff :
    ofFraction n d = .ok r ↔
      r.WordSized ∧ ∃ ns ds, Pads n ns ∧ Pads d ds ∧
        r = ⟨Digits.value ns, Digits.value ds⟩ := by
  simp only [ofFraction, bind_eq_ok_iff, number_eq_ok_iff,
    ofParts_eq_ok_iff, pads_iff]
  constructor
  · rintro ⟨_, ⟨hNumerator, rfl, hFits⟩, _,
      ⟨hDenominator, rfl, hFits'⟩, rfl, hPos, hPos'⟩
    exact ⟨⟨hPos, hFits, hPos', hFits'⟩, _, _,
      ⟨rfl, hNumerator⟩, ⟨rfl, hDenominator⟩, rfl⟩
  · rintro ⟨hSized, _, _, ⟨rfl, hNumerator⟩, ⟨rfl, hDenominator⟩,
      rfl⟩
    exact ⟨_, ⟨hNumerator, rfl, hSized.numerator_lt⟩, _,
      ⟨hDenominator, rfl, hSized.denominator_lt⟩, rfl,
      hSized.numerator_pos, hSized.denominator_pos⟩

/- The powers of ten that have 64 bits end with the nineteenth. -/
theorem pow_ten_lt_iff {k : Nat} :
    10 ^ k < Nat.pow 2 64 ↔ k ≤ 19 := by
  constructor
  · intro hFits
    by_contra hLarge
    have hPower : 10 ^ 20 ≤ 10 ^ k :=
      Nat.pow_le_pow_right (by decide) (by omega)
    have hTwenty : Nat.pow 2 64 < 10 ^ 20 := by decide
    omega
  · intro hSmall
    have hPower : 10 ^ k ≤ 10 ^ 19 :=
      Nat.pow_le_pow_right (by decide) hSmall
    have hNineteen : 10 ^ 19 < Nat.pow 2 64 := by decide
    omega

/- A decimal is read from digits with few enough places. -/
theorem ofDecimal_eq_ok_iff {whole places : List Char} :
    ofDecimal whole places = .ok r ↔
      r.WordSized ∧ IsNumeral (whole ++ places) ∧
        places.length ≤ 19 ∧
        r = ⟨Digits.value (whole ++ places),
          10 ^ places.length⟩ := by
  -- The power is taken before the places are known to be digits.
  have hCount : IsNumeral (whole ++ places) →
      Bytes.count places = places.length := by
    intro hNumeral
    apply Bytes.count_of_digits
    intro c hMember
    exact hNumeral.digits c (List.mem_append_right whole hMember)
  simp only [ofDecimal]
  constructor
  · intro hRead
    split_ifs at hRead with hFits'
    simp only [bind_eq_ok_iff, number_eq_ok_iff,
      ofParts_eq_ok_iff] at hRead
    rcases hRead with ⟨_, ⟨hNumeral, rfl, hFits⟩, rfl, hPos, hPos'⟩
    rw [hCount hNumeral] at hFits' hPos' ⊢
    have hBound : 10 ^ places.length < Nat.pow 2 64 :=
      of_decide_eq_true hFits'
    exact ⟨⟨hPos, hFits, hPos', hBound⟩, hNumeral,
      pow_ten_lt_iff.mp hBound, rfl⟩
  · rintro ⟨hSized, hNumeral, _, rfl⟩
    have hFits' : Digits.inUnsigned 64
        (Nat.pow 10 places.length) = true :=
      decide_eq_true hSized.denominator_lt
    rw [hCount hNumeral, if_pos hFits']
    simp only [bind_eq_ok_iff, number_eq_ok_iff,
      ofParts_eq_ok_iff]
    exact ⟨_, ⟨hNumeral, rfl, hSized.numerator_lt⟩, rfl,
      hSized.numerator_pos, hSized.denominator_pos⟩

/- A whole number is read from a padded numeral. -/
theorem ofWhole_eq_ok_iff :
    (do
      let k ← number (Unicode.trim n)
      ofParts k 1) = .ok r ↔
      r.WordSized ∧ ∃ ns, Pads n ns ∧
        r = ⟨Digits.value ns, 1⟩ := by
  simp only [bind_eq_ok_iff, number_eq_ok_iff,
    ofParts_eq_ok_iff, pads_iff]
  constructor
  · rintro ⟨_, ⟨hNumeral, rfl, hFits⟩, rfl, hPos, hPos'⟩
    exact ⟨⟨hPos, hFits, hPos', Nat.one_lt_two_pow (by decide)⟩,
      _, ⟨rfl, hNumeral⟩, rfl⟩
  · rintro ⟨hSized, _, ⟨rfl, hNumeral⟩, rfl⟩
    exact ⟨_, ⟨hNumeral, rfl, hSized.numerator_lt⟩, rfl,
      hSized.numerator_pos, hSized.denominator_pos⟩

/- What is read is written in one of the ways. -/
theorem exists_written_of_readChars
    (hRead : readChars cs = .ok r) :
    r.WordSized ∧ ∃ x, Written cs r x := by
  unfold readChars at hRead
  split at hRead
  · rename_i n d hSplit
    rcases splitAt?_eq_some_iff.mp hSplit with ⟨rfl, _⟩
    rcases ofFraction_eq_ok_iff.mp hRead with
      ⟨hSized, ns, ds, hNumerator, hDenominator, rfl⟩
    exact ⟨hSized, _, .fraction hNumerator hDenominator⟩
  · split at hRead
    · rename_i whole places hSplit
      rcases splitAt?_eq_some_iff.mp hSplit with ⟨rfl, _⟩
      rcases ofDecimal_eq_ok_iff.mp hRead with
        ⟨hSized, hDigits, hPlaces, rfl⟩
      exact ⟨hSized, _, .decimal hDigits hPlaces⟩
    · rcases ofWhole_eq_ok_iff.mp hRead with
        ⟨hSized, ns, hNumber, rfl⟩
      exact ⟨hSized, _, .whole hNumber⟩

/- What is written in one of the ways is read. -/
theorem Written.readChars_eq
    (hWritten : Written cs r x)
    (hSized : r.WordSized) :
    readChars cs = .ok r := by
  unfold readChars
  cases hWritten with
  | @fraction n d ns ds hNumerator hDenominator =>
      have hSplit : splitAt? '/' (n ++ '/' :: d) = some (n, d) :=
        splitAt?_eq_some_iff.mpr
          ⟨rfl, hNumerator.not_mem (by decide)⟩
      simp only [hSplit]
      exact ofFraction_eq_ok_iff.mpr
        ⟨hSized, ns, ds, hNumerator, hDenominator, rfl⟩
  | @decimal whole places hDigits hPlaces =>
      have hPlain : ∀ c, Digits.isDigit c = false →
          c ∉ whole ∧ c ∉ places := by
        intro c hOther
        rw [← not_or, ← List.mem_append]
        intro hMember
        exact ne_of_class (hDigits.digits c hMember) hOther rfl
      have hNone : splitAt? '/' (whole ++ '.' :: places) = none := by
        simp [splitAt?_eq_none_iff, hPlain '/' (by decide)]
      have hSplit : splitAt? '.' (whole ++ '.' :: places) =
          some (whole, places) :=
        splitAt?_eq_some_iff.mpr ⟨rfl, (hPlain '.' (by decide)).1⟩
      simp only [hNone, hSplit]
      exact ofDecimal_eq_ok_iff.mpr ⟨hSized, hDigits, hPlaces, rfl⟩
  | @whole _ ns hNumber =>
      have hNone : ∀ c,
          Unicode.isBlank c = false ∧ Digits.isDigit c = false →
            splitAt? c cs = none :=
        fun c hOther =>
          splitAt?_eq_none_iff.mpr (hNumber.not_mem hOther)
      simp only [hNone '/' (by decide), hNone '.' (by decide)]
      exact ofWhole_eq_ok_iff.mpr ⟨hSized, ns, hNumber, rfl⟩

/- Ratios are read from the texts in which they are written. -/
theorem read_eq_ok_iff {text : String} :
    read text = .ok r ↔
      r.WordSized ∧ ∃ x, Written text.toList r x := by
  have hChars : read text = .ok r ↔
      readChars text.toList = .ok r := by
    unfold read
    cases readChars text.toList <;> simp [Except.mapError]
  rw [hChars]
  constructor
  · exact exists_written_of_readChars
  · rintro ⟨hSized, x, hWritten⟩
    exact hWritten.readChars_eq hSized

/- A numeral is a whole number. -/
theorem Written.eq_of_isNumeral
    (hWritten : Written cs r x)
    (hNumeral : IsNumeral cs) :
    r = ⟨Digits.value cs, 1⟩ := by
  have hPlain : ∀ c, Digits.isDigit c = false → c ∉ cs :=
    fun c hOther hMember =>
      ne_of_class (hNumeral.digits c hMember) hOther rfl
  cases hWritten with
  | fraction _ _ => exact absurd (by simp) (hPlain '/' (by decide))
  | decimal _ _ => exact absurd (by simp) (hPlain '.' (by decide))
  | whole hNumber =>
      rw [(pads_iff.mp hNumber).1.symm.trans
        (pads_iff.mp hNumeral.pads).1]

/- The numeral of a positive number of 64 bits is read as it. -/
theorem read_count_iff {k : Nat} :
    read (Digits.text k) = .ok r ↔
      k < Nat.pow 2 64 ∧ 1 ≤ k ∧ r = ⟨k, 1⟩ := by
  have hNumeral := isNumeral_write k
  rw [read_eq_ok_iff, Digits.text, String.toList_ofList]
  constructor
  · rintro ⟨hSized, x, hWritten⟩
    obtain rfl := hWritten.eq_of_isNumeral hNumeral
    rw [Digits.value_write] at hSized ⊢
    exact ⟨hSized.numerator_lt, hSized.numerator_pos, rfl⟩
  · rintro ⟨hBound, hPositive, rfl⟩
    have hWritten := Written.whole hNumeral.pads
    rw [Digits.value_write] at hWritten
    exact ⟨⟨hPositive, hBound, Nat.one_pos,
      Nat.one_lt_two_pow (by decide)⟩, _, hWritten⟩

------------------------------------------------------------
-- Writing
------------------------------------------------------------

/- The text of a ratio is one of the ways to write it. -/
theorem written_text (r : Ratio) :
    Written r.text.toList r r.value := by
  rcases r with ⟨n, d⟩
  have hNumber := fun k => (isNumeral_write k).pads
  unfold text
  split_ifs with hWhole
  · have hDenominator : d = 1 := hWhole
    subst hDenominator
    have hWritten := Written.whole (hNumber n)
    simpa [Digits.value_write, Digits.text, value] using hWritten
  · have hWritten := Written.fraction (hNumber n) (hNumber d)
    simpa [Digits.value_write, Digits.text, value] using hWritten

/-
  A ratio is read from a text exactly when the text is one of
  the ways to write it and both numbers are positive and have
  64 bits; its rational number is then the one that is written.
  Every ratio of such numbers is read back from its own text.
-/
theorem read_iff_written_and_text (text : String) (r : Ratio) :
    (read text = .ok r ↔
      r.WordSized ∧
        ∃ x, Written text.toList r x ∧ r.value = x) ∧
    (r.WordSized → read r.text = .ok r) := by
  constructor
  · rw [read_eq_ok_iff]
    apply and_congr_right
    intro _
    apply exists_congr
    intro x
    exact (and_iff_left_of_imp Written.value_eq).symm
  · intro hSized
    exact read_eq_ok_iff.mpr ⟨hSized, r.value, written_text r⟩

/- A decimal stands for the same number as the fraction written for it. -/
theorem read_iff_written_and_text_decimal :
    let r : Ratio := ⟨159, 10⟩
    r.WordSized ∧ read "15.9" = .ok r ∧ r.text = "159/10" ∧
      read r.text = .ok r := by
  intro r
  have hSized : r.WordSized :=
    ⟨by decide, by decide, by decide, by decide⟩
  rcases read_iff_written_and_text "15.9" r with ⟨hRead, hText⟩
  have hDigits : IsNumeral ['1', '5', '9'] :=
    ⟨by decide, List.all_eq_true.mp (by decide)⟩
  have hWritten : Written "15.9".toList r (15 + 9 / 10 ^ 1) :=
    @Written.decimal ['1', '5'] ['9'] hDigits (by decide)
  exact ⟨hSized,
    hRead.mpr ⟨hSized, _, hWritten, hWritten.value_eq⟩,
    by decide +kernel, hText hSized⟩

------------------------------------------------------------
-- Comparison
------------------------------------------------------------

theorem value_multiple
    {n d k : Nat}
    (hPos : 0 < k) :
    value ⟨k * n, k * d⟩ = value ⟨n, d⟩ := by
  have hFactor : (k : ℚ) ≠ 0 := by exact_mod_cast hPos.ne'
  simp only [value, Nat.cast_mul]
  exact mul_div_mul_left _ _ hFactor

/- A ratio is compared with two amounts within 128 bits. -/
structure Fits (r : Ratio) (limit request : Nat) : Prop where
  limit : limit * r.denominator < 2 ^ 128
  request : request * r.numerator < 2 ^ 128

/- Within 128 bits the comparison is that of rational numbers. -/
theorem exceeded_iff
    {limit request : Quantity}
    (hFits : r.Fits limit.absolute request.absolute)
    (hPos : 0 < r.denominator) :
    r.exceeded limit request = true ↔
      (request.absolute : ℚ) * r.value < limit.absolute := by
  have hPos' : (0 : ℚ) < r.denominator := by exact_mod_cast hPos
  have hProduct : ∀ (q : Quantity) (k : Nat),
      q.absolute * k < 2 ^ 128 →
        product? q k = some (q.absolute * k) :=
    fun q k hBound => Option.filter_eq_some_iff.mpr
      ⟨rfl, decide_eq_true hBound⟩
  rw [exceeded, hProduct _ _ hFits.limit,
    hProduct _ _ hFits.request, decide_eq_true_eq, value,
    ← mul_div_assoc, div_lt_iff₀ hPos']
  exact_mod_cast Iff.rfl

/- Ratios of numbers up to 16 fit whatever can be read. -/
theorem fits_of_le
    {limit request : String}
    {a b : Nat}
    (hNumerator : r.numerator ≤ 16)
    (hDenominator : r.denominator ≤ 16)
    (hLimit : Quantity.Amounts limit a)
    (hRequest : Quantity.Amounts request b) :
    r.Fits a b := by
  have hBound : ∀ a k : Nat,
      a < 2 ^ 124 → k ≤ 16 → a * k < 2 ^ 128 := by
    intro a k hSmall hLe
    calc
      a * k < 2 ^ 124 * 16 :=
        Nat.mul_lt_mul_of_lt_of_le hSmall hLe (by decide)
      _ = 2 ^ 128 := by decide
  exact ⟨hBound a _ hLimit.lt hDenominator,
    hBound b _ hRequest.lt hNumerator⟩

end Ratio

end ManifestRecipes
