import ManifestRecipes.Proofs.Cursor
import ManifestRecipes.Proofs.Findings
import ManifestRecipes.Proofs.Pattern
import ManifestRecipes.Proofs.Text
import ManifestRecipes.Recipe.Address
import ManifestRecipes.Recipe.Options

/-
  Which texts are taken for network addresses.

  The pattern stands for four numerals joined by dots that are
  no part of a longer word.  The digits it compares are those of
  ASCII; where it takes any digit, digits of all scripts will do.

  Key definitions include:
    * `Address.IsOctet`
    * `Address.Numeral`
    * `Address.Holds`
    * `Address.Lists`
    * `Address.Finds`

  Main declarations:
    * `Address.isOctet_of_numeral`
    * `Address.numeral_of_isOctet`
    * `Address.occursIn_pattern_iff`
    * `Address.find_lists_addresses`
-/

namespace ManifestRecipes

namespace Address

open Pattern (Stretches)

------------------------------------------------------------
-- Octets
------------------------------------------------------------

/- The decimal numerals of the numbers up to 255. -/
def IsOctet (cs : List Char) : Prop :=
  ∃ n ≤ 255, cs = Digits.write n

/- A character lies in a range of characters. -/
def IsBetween (first last c : Char) : Prop :=
  first.toNat ≤ c.toNat ∧ c.toNat ≤ last.toNat

/-
  Numerals of up to three digits.  Where the value of a digit
  does not matter, any digit will do that passes a test.
-/
inductive Numeral (IsDigit : Char → Prop) : List Char → Prop where
  /- From 250 to 255. -/
  | highest {c : Char}
      (hLast : IsBetween '0' '5' c) :
      Numeral IsDigit ['2', '5', c]
  /- From 200 to 249. -/
  | high {c d : Char}
      (hMiddle : IsBetween '0' '4' c)
      (hLast : IsDigit d) :
      Numeral IsDigit ['2', c, d]
  /- From 100 to 199. -/
  | low {c d : Char}
      (hMiddle : IsDigit c)
      (hLast : IsDigit d) :
      Numeral IsDigit ['1', c, d]
  /- From 10 to 99. -/
  | tens {c d : Char}
      (hFirst : IsBetween '1' '9' c)
      (hLast : IsDigit d) :
      Numeral IsDigit [c, d]
  /- From 0 to 9. -/
  | ones {d : Char}
      (hDigit : IsDigit d) :
      Numeral IsDigit [d]

theorem isDigit_iff_isBetween {c : Char} :
    Digits.isDigit c = true ↔ IsBetween '0' '9' c := by
  simp only [Digits.isDigit, Bool.and_eq_true, decide_eq_true_eq,
    Char.le_def, UInt32.le_iff_toNat_le]
  rfl

/- The digits between two others are those of the numbers between theirs. -/
theorem isBetween_iff
    (k l : Nat)
    {c : Char}
    (hDigits : k ≤ 9 ∧ l ≤ 9) :
    IsBetween (Nat.digitChar k) (Nat.digitChar l) c ↔
      ∃ n, k ≤ n ∧ n ≤ l ∧ c = Nat.digitChar n := by
  rw [IsBetween, Nat.toNat_digitChar_of_lt_ten (by omega),
    Nat.toNat_digitChar_of_lt_ten (by omega)]
  constructor
  · intro hBetween
    refine ⟨c.toNat - 48, by omega, by omega, ?_⟩
    apply Char.toNat_inj.mp
    rw [Nat.toNat_digitChar_of_lt_ten (by omega)]
    omega
  · intro hWritten
    rcases hWritten with ⟨n, hLow, hHigh, rfl⟩
    rw [Nat.toNat_digitChar_of_lt_ten (by omega)]
    omega

theorem isDigit_iff {c : Char} :
    Digits.isDigit c = true ↔ ∃ n ≤ 9, c = Nat.digitChar n := by
  rw [isDigit_iff_isBetween]
  refine (isBetween_iff 0 9 (by decide)).trans ?_
  simp only [Nat.zero_le, true_and]

theorem write_digit
    {n : Nat}
    (hDigit : n ≤ 9) :
    Digits.write n = [Nat.digitChar n] := by
  exact Nat.toDigits_of_lt_base (by omega)

/- The last digit of a number is written behind the others. -/
theorem write_append
    {n d : Nat}
    (hPositive : 0 < n)
    (hDigit : d ≤ 9) :
    Digits.write (10 * n + d) =
      Digits.write n ++ [Nat.digitChar d] := by
  rw [← write_digit hDigit]
  exact (Nat.toDigits_append_toDigits (by decide) hPositive
    (by omega)).symm

/- Numerals with ASCII digits are written for numbers up to 255. -/
theorem isOctet_of_numeral
    {cs : List Char}
    (hNumeral : Numeral (Digits.isDigit · = true) cs) :
    IsOctet cs := by
  cases hNumeral with
  | highest hLast =>
      rcases (isBetween_iff 0 5 (by decide)).mp hLast with
        ⟨n, _, hSmall, rfl⟩
      refine ⟨10 * 25 + n, by omega, ?_⟩
      rw [write_append (by decide) (by omega)]
      rfl
  | high hMiddle hLast =>
      rcases (isBetween_iff 0 4 (by decide)).mp hMiddle with
        ⟨m, _, hSmall, rfl⟩
      rcases isDigit_iff.mp hLast with ⟨n, hSingle, rfl⟩
      refine ⟨10 * (10 * 2 + m) + n, by omega, ?_⟩
      rw [write_append (by omega) hSingle,
        write_append (by decide) (by omega)]
      rfl
  | low hMiddle hLast =>
      rcases isDigit_iff.mp hMiddle with ⟨m, hSmall, rfl⟩
      rcases isDigit_iff.mp hLast with ⟨n, hSingle, rfl⟩
      refine ⟨10 * (10 * 1 + m) + n, by omega, ?_⟩
      rw [write_append (by omega) hSingle,
        write_append (by decide) hSmall]
      rfl
  | tens hFirst hLast =>
      rcases (isBetween_iff 1 9 (by decide)).mp hFirst with
        ⟨m, hPositive, hSmall, rfl⟩
      rcases isDigit_iff.mp hLast with ⟨n, hSingle, rfl⟩
      refine ⟨10 * m + n, by omega, ?_⟩
      rw [write_append hPositive hSingle, write_digit hSmall]
      rfl
  | ones hDigit =>
      rcases isDigit_iff.mp hDigit with ⟨n, hSingle, rfl⟩
      exact ⟨n, by omega, (write_digit hSingle).symm⟩

/- The numbers up to 255 are written as numerals. -/
theorem numeral_of_isOctet
    {cs : List Char}
    (hOctet : IsOctet cs) :
    Numeral (Digits.isDigit · = true) cs := by
  have hDigit : ∀ {d}, d ≤ 9 →
      Digits.isDigit (Nat.digitChar d) = true :=
    fun hSingle => isDigit_iff.mpr ⟨_, hSingle, rfl⟩
  rcases hOctet with ⟨n, hBound, rfl⟩
  by_cases hOne : n ≤ 9
  · rw [write_digit hOne]
    exact .ones (hDigit hOne)
  obtain ⟨m, k, hLast, rfl⟩ : ∃ m k, k ≤ 9 ∧ n = 10 * m + k :=
    ⟨n / 10, n % 10, by omega, by omega⟩
  rw [write_append (by omega) hLast]
  by_cases hTwo : m ≤ 9
  · rw [write_digit hTwo]
    exact .tens ((isBetween_iff 1 9 (by decide)).mpr
      ⟨m, by omega, hTwo, rfl⟩) (hDigit hLast)
  obtain ⟨h, l, hMiddle, rfl⟩ : ∃ h l, l ≤ 9 ∧ m = 10 * h + l :=
    ⟨m / 10, m % 10, by omega, by omega⟩
  rw [write_append (by omega) hMiddle, write_digit (by omega)]
  rcases (by omega : h = 1 ∨ h = 2 ∧ l ≤ 4 ∨ h = 2 ∧ l = 5 ∧ k ≤ 5)
    with rfl | ⟨rfl, hSmall⟩ | ⟨rfl, rfl, hSmall⟩
  · exact .low (hDigit hMiddle) (hDigit hLast)
  · exact .high ((isBetween_iff 0 4 (by decide)).mpr
      ⟨l, by omega, hSmall, rfl⟩) (hDigit hLast)
  · exact .highest ((isBetween_iff 0 5 (by decide)).mpr
      ⟨k, by omega, hSmall, rfl⟩)

------------------------------------------------------------
-- Patterns
------------------------------------------------------------

/- Word characters. -/
def IsWordChar (c : Char) : Prop :=
  Unicode.Word.characters.contains c.toNat = true

/- No word character is next to a place. -/
def NoneBeside (c? : Option Char) : Prop :=
  ∀ c ∈ c?, ¬ IsWordChar c

/- Decimal digits of all scripts. -/
def IsDecimal (c : Char) : Prop :=
  Unicode.Word.digits.contains c.toNat = true

section Sequences

variable {ps : List Pattern} {before s after : List Char}

theorem fits_nil_iff :
    (inSequence []).Fits before s after ↔ s = [] := by
  rfl

/- A set before other patterns stands for the first character. -/
theorem fits_oneOf_cons_iff {set : Unicode.CodeSet} :
    (inSequence (.oneOf set :: ps)).Fits before s after ↔
      ∃ c v, set.contains c.toNat = true ∧ s = c :: v ∧
        (inSequence ps).Fits (before ++ [c]) v after := by
  constructor
  · intro hFits
    rcases hFits with ⟨_, v, rfl, ⟨c, rfl, hSet⟩, hRest⟩
    exact ⟨c, v, hSet, rfl, hRest⟩
  · intro hFits
    rcases hFits with ⟨c, v, hSet, rfl, hRest⟩
    exact ⟨[c], v, rfl, ⟨c, rfl, hSet⟩, hRest⟩

theorem fits_between_cons_iff {first last : Char} :
    (inSequence (between first last :: ps)).Fits before s after ↔
      ∃ c v, IsBetween first last c ∧ s = c :: v ∧
        (inSequence ps).Fits (before ++ [c]) v after := by
  simp only [between, fits_oneOf_cons_iff, Unicode.CodeSet.contains,
    Bool.and_eq_true, decide_eq_true_eq, IsBetween]

/- A given character stands for itself. -/
theorem fits_literal_cons_iff {c : Char} :
    (inSequence (literal c :: ps)).Fits before s after ↔
      ∃ v, s = c :: v ∧
        (inSequence ps).Fits (before ++ [c]) v after := by
  have hOnly : ∀ d : Char, IsBetween c c d ↔ d = c := by
    intro d
    rw [IsBetween, ← Char.toNat_inj]
    omega
  change (inSequence (between c c :: ps)).Fits before s after ↔ _
  rw [fits_between_cons_iff]
  simp [hOnly]

theorem fits_digit_cons_iff :
    (inSequence (digit :: ps)).Fits before s after ↔
      ∃ d v, IsDecimal d ∧ s = d :: v ∧
        (inSequence ps).Fits (before ++ [d]) v after := by
  exact fits_oneOf_cons_iff

/- A pattern that may be left out stands for more or for nothing. -/
theorem fits_optional_cons_iff {p : Pattern} :
    (inSequence (.repeated p 0 (some 1) :: ps)).Fits before s after ↔
      (inSequence (p :: ps)).Fits before s after ∨
        (inSequence ps).Fits before s after := by
  constructor
  · intro hFits
    rcases hFits with ⟨u, v, rfl, ⟨n, ⟨_, hMost⟩, hTimes⟩, hRest⟩
    have hFew : n ≤ 1 := hMost 1 rfl
    rcases Nat.le_one_iff_eq_zero_or_eq_one.mp hFew with rfl | rfl
    · rcases hTimes with rfl
      rw [List.append_nil] at hRest
      exact Or.inr hRest
    · rcases hTimes with ⟨u, _, rfl, hFirst, rfl⟩
      simp only [List.append_nil, List.nil_append] at hFirst hRest ⊢
      exact Or.inl ⟨u, v, rfl, hFirst, hRest⟩
  · intro hFits
    rcases hFits with ⟨u, v, rfl, hFirst, hRest⟩ | hRest
    · exact ⟨u, v, rfl, ⟨1, ⟨Nat.zero_le 1, by simp⟩,
        u, [], by simp, by simpa using hFirst, rfl⟩, hRest⟩
    · rw [← List.append_nil before] at hRest
      exact ⟨[], s, rfl, ⟨0, ⟨le_rfl, by simp⟩, rfl⟩, hRest⟩

/- The pattern for one number stands for numerals. -/
theorem fits_octet_iff :
    octet.Fits before s after ↔ Numeral IsDecimal s := by
  simp only [octet, Pattern.Fits, fits_literal_cons_iff,
    fits_between_cons_iff, fits_digit_cons_iff,
    fits_optional_cons_iff, fits_nil_iff]
  constructor
  · intro hFits
    rcases hFits with ⟨_, rfl, _, rfl, c, _, hLast, rfl, rfl⟩ |
      ⟨_, rfl, c, _, hMiddle, rfl, d, _, hLast, rfl, rfl⟩ |
      ⟨_, rfl, c, _, hMiddle, rfl, d, _, hLast, rfl, rfl⟩ |
      ⟨c, _, hFirst, rfl, d, _, hLast, rfl, rfl⟩ |
      ⟨d, _, hDigit, rfl, rfl⟩
    · exact .highest hLast
    · exact .high hMiddle hLast
    · exact .low hMiddle hLast
    · exact .tens hFirst hLast
    · exact .ones hDigit
  · intro hNumeral
    cases hNumeral with
    | highest hLast => exact .inl ⟨_, rfl, _, rfl, _, _, hLast, rfl, rfl⟩
    | high hMiddle hLast =>
        exact .inr (.inl
          ⟨_, rfl, _, _, hMiddle, rfl, _, _, hLast, rfl, rfl⟩)
    | low hMiddle hLast =>
        exact .inr (.inr (.inl
          ⟨_, rfl, _, _, hMiddle, rfl, _, _, hLast, rfl, rfl⟩))
    | tens hFirst hLast =>
        exact .inr (.inr (.inr (.inl
          ⟨_, _, hFirst, rfl, _, _, hLast, rfl, rfl⟩)))
    | ones hDigit =>
        exact .inr (.inr (.inr (.inr ⟨_, _, hDigit, rfl, rfl⟩)))

/- So it does before other patterns. -/
theorem fits_octet_cons_iff :
    (inSequence (octet :: ps)).Fits before s after ↔
      ∃ n v, Numeral IsDecimal n ∧ s = n ++ v ∧
        (inSequence ps).Fits (before ++ n) v after := by
  constructor
  · intro hFits
    rcases hFits with ⟨n, v, rfl, hOctet, hRest⟩
    exact ⟨n, v, fits_octet_iff.mp hOctet, rfl, hRest⟩
  · intro hFits
    rcases hFits with ⟨n, v, hNumeral, rfl, hRest⟩
    exact ⟨n, v, rfl, fits_octet_iff.mpr hNumeral, hRest⟩

/- Two sequences make one. -/
theorem fits_append (ps qs : List Pattern) :
    (inSequence (ps ++ qs)).Fits =
      (inSequence ps).Fits.followedBy (inSequence qs).Fits := by
  induction ps with
  | nil => exact (Stretches.nothing_followedBy _).symm
  | cons p ps ih =>
      change p.Fits.followedBy (inSequence (ps ++ qs)).Fits = _
      rw [ih, ← Stretches.followedBy_assoc]
      rfl

/- A pattern that comes so many times can be listed so many times. -/
theorem fits_repeated_cons
    (p : Pattern)
    (n : Nat)
    (ps : List Pattern) :
    (inSequence (.repeated p n (some n) :: ps)).Fits =
      (inSequence (List.replicate n p ++ ps)).Fits := by
  have hTimes :
      p.Fits.times n = (inSequence (List.replicate n p)).Fits := by
    induction n with
    | zero => rfl
    | succ n ih => exact congrArg p.Fits.followedBy ih
  have hCount : ∀ m, Pattern.IsCount n (some n) m ↔ m = n := by
    intro m
    simp only [Pattern.IsCount, Option.mem_def, Option.some.injEq,
      forall_eq', max_self]
    omega
  have hRepeated :
      (Pattern.repeated p n (some n)).Fits = p.Fits.times n := by
    funext before s after
    simp only [Pattern.Fits, hCount, exists_eq_left]
  rw [fits_append, ← hTimes, ← hRepeated]
  rfl

theorem fits_inSequence_cons (qs ps : List Pattern) :
    (inSequence (inSequence qs :: ps)).Fits =
      (inSequence (qs ++ ps)).Fits := by
  rw [fits_append]
  rfl

/- A word that begins or ends is no stretch of the text. -/
theorem fits_wordEdge_cons_iff :
    (inSequence (wordEdge :: ps)).Fits before s after ↔
      (NoneBeside before.getLast? ↔ ¬ NoneBeside (s ++ after).head?) ∧
        (inSequence ps).Fits before s after := by
  have hBeside : ∀ c? : Option Char,
      Assertion.beside Unicode.Word.characters c? = false ↔
        NoneBeside c? := by
    intro c?
    cases c? <;> simp [Assertion.beside, NoneBeside, IsWordChar]
  have hEdge : ∀ rest : List Char,
      Assertion.holds before.getLast? rest.head?
          (.word Unicode.Word.characters .edge) = true ↔
        (NoneBeside before.getLast? ↔ ¬ NoneBeside rest.head?) := by
    intro rest
    rw [← hBeside, ← hBeside]
    simp only [Assertion.holds, WordPlace.holds]
    cases Assertion.beside Unicode.Word.characters before.getLast? <;>
      cases Assertion.beside Unicode.Word.characters rest.head? <;>
        simp
  rw [← hEdge]
  constructor
  · intro hFits
    rcases hFits with ⟨_, v, rfl, ⟨rfl, hHolds⟩, hRest⟩
    rw [List.append_nil] at hRest
    exact ⟨hHolds, hRest⟩
  · intro hFits
    rcases hFits with ⟨hHolds, hRest⟩
    rw [← List.append_nil before] at hRest
    exact ⟨[], s, rfl, ⟨rfl, hHolds⟩, hRest⟩

end Sequences

------------------------------------------------------------
-- Addresses
------------------------------------------------------------

theorem isWordChar_of_isDecimal
    {c : Char}
    (hDecimal : IsDecimal c) :
    IsWordChar c := by
  have hMember : Unicode.Category.decimalNumberSet.contains c.toNat =
    true := hDecimal
  simp [IsWordChar, Unicode.Word.characters, Unicode.CodeSet.unions,
    Unicode.CodeSet.contains, hMember]

theorem isDecimal_of_isDigit
    {c : Char}
    (hDigit : Digits.isDigit c = true) :
    IsDecimal c := by
  have hMembers : ∀ n ≤ 9, IsDecimal (Nat.digitChar n) := by
    unfold IsDecimal
    decide
  rcases isDigit_iff.mp hDigit with ⟨n, hSingle, rfl⟩
  exact hMembers n hSingle

theorem isDigit_of_isBetween
    {first last c : Char}
    (hBetween : IsBetween first last c)
    (hRange : '0'.toNat ≤ first.toNat ∧ last.toNat ≤ '9'.toNat) :
    Digits.isDigit c = true := by
  rw [isDigit_iff_isBetween]
  exact ⟨hRange.1.trans hBetween.1, hBetween.2.trans hRange.2⟩

/- Numerals consist of digits, and of one at least. -/
theorem Numeral.digits
    {IsDigit : Char → Prop}
    {cs : List Char}
    (hAscii : ∀ c, Digits.isDigit c = true → IsDigit c)
    (hNumeral : Numeral IsDigit cs) :
    cs ≠ [] ∧ ∀ c ∈ cs, IsDigit c := by
  have hOne := hAscii '1' (by decide)
  have hTwo := hAscii '2' (by decide)
  have hFive := hAscii '5' (by decide)
  have hBetween : ∀ {first last c : Char}, IsBetween first last c →
      '0'.toNat ≤ first.toNat ∧ last.toNat ≤ '9'.toNat → IsDigit c :=
    fun hBetween hRange =>
      hAscii _ (isDigit_of_isBetween hBetween hRange)
  cases hNumeral with
  | highest hLast => simp [hTwo, hFive, hBetween hLast (by decide)]
  | high hMiddle hLast =>
      simp [hTwo, hBetween hMiddle (by decide), hLast]
  | low hMiddle hLast => simp [hOne, hMiddle, hLast]
  | tens hFirst hLast => simp [hBetween hFirst (by decide), hLast]
  | ones hDigit => simp [hDigit]

/- Four numbers are joined by dots. -/
def IsAddress
    (IsNumber : List Char → Prop)
    (s : List Char) : Prop :=
  ∃ a b c d, IsNumber a ∧ IsNumber b ∧ IsNumber c ∧ IsNumber d ∧
    s = a ++ '.' :: (b ++ '.' :: (c ++ '.' :: d))

/-
  An address stands in a text, with no word character directly
  before or after it.
-/
def Holds
    (IsNumber : List Char → Prop)
    (text : List Char) : Prop :=
  ∃ before s after, text = before ++ s ++ after ∧
    IsAddress IsNumber s ∧
      NoneBeside before.getLast? ∧ NoneBeside after.head?

/- A numeral begins with a word character. -/
theorem Numeral.not_noneBeside_head
    {n : List Char}
    (hNumeral : Numeral IsDecimal n)
    (after : List Char) :
    ¬ NoneBeside (n ++ after).head? := by
  rcases hNumeral.digits fun _ => isDecimal_of_isDigit with
    ⟨hGiven, hDigits⟩
  intro hNone
  rw [List.head?_append_of_ne_nil _ hGiven,
    List.head?_eq_some_head hGiven] at hNone
  exact hNone _ rfl
    (isWordChar_of_isDecimal (hDigits _ (List.head_mem hGiven)))

/- It ends with one, too. -/
theorem Numeral.not_noneBeside_last
    {n : List Char}
    (hNumeral : Numeral IsDecimal n)
    (before : List Char) :
    ¬ NoneBeside (before ++ n).getLast? := by
  rcases hNumeral.digits fun _ => isDecimal_of_isDigit with
    ⟨hGiven, hDigits⟩
  intro hNone
  rw [List.getLast?_append_of_ne_nil _ hGiven,
    List.getLast?_eq_some_getLast hGiven] at hNone
  exact hNone _ rfl
    (isWordChar_of_isDecimal (hDigits _ (List.getLast_mem hGiven)))

/- Behind the beginning of a word, the pattern stands for an address. -/
theorem fits_numbers_iff {before s after : List Char} :
    (inSequence
        [.repeated (inSequence [octet, literal '.']) 3 (some 3), octet,
          wordEdge]).Fits before s after ↔
      IsAddress (Numeral IsDecimal) s ∧ NoneBeside after.head? := by
  simp only [fits_repeated_cons, List.replicate, List.cons_append,
    List.nil_append, fits_inSequence_cons, fits_octet_cons_iff,
    fits_literal_cons_iff, fits_wordEdge_cons_iff, fits_nil_iff]
  constructor
  · intro hFits
    rcases hFits with ⟨a, _, hA, rfl, _, rfl, b, _, hB, rfl, _, rfl,
      c, _, hC, rfl, _, rfl, d, _, hD, rfl, hEdge, rfl⟩
    rw [iff_not_comm] at hEdge
    refine ⟨⟨a, b, c, d, hA, hB, hC, hD, by simp⟩, ?_⟩
    exact hEdge.mpr (hD.not_noneBeside_last _)
  · intro hAddress
    rcases hAddress with ⟨⟨a, b, c, d, hA, hB, hC, hD, rfl⟩, hAfter⟩
    refine ⟨a, _, hA, rfl, _, rfl, b, _, hB, rfl, _, rfl,
      c, _, hC, rfl, _, rfl, d, [], hD, by simp, ?_, rfl⟩
    rw [iff_not_comm]
    exact iff_of_true hAfter (hD.not_noneBeside_last _)

/- The pattern stands for addresses that are no parts of longer words. -/
theorem fits_pattern_iff {before s after : List Char} :
    pattern.Fits before s after ↔
      IsAddress (Numeral IsDecimal) s ∧
        NoneBeside before.getLast? ∧ NoneBeside after.head? := by
  rw [pattern, fits_wordEdge_cons_iff, fits_numbers_iff]
  constructor
  · intro hFits
    rcases hFits with ⟨hEdge, ⟨a, b, c, d, hA, hB, hC, hD, rfl⟩, hAfter⟩
    rw [List.append_assoc] at hEdge
    exact ⟨⟨a, b, c, d, hA, hB, hC, hD, rfl⟩,
      hEdge.mpr (hA.not_noneBeside_head _), hAfter⟩
  · intro hFits
    rcases hFits with ⟨⟨a, b, c, d, hA, hB, hC, hD, rfl⟩, hBefore, hAfter⟩
    refine ⟨?_, ⟨a, b, c, d, hA, hB, hC, hD, rfl⟩, hAfter⟩
    rw [List.append_assoc]
    exact iff_of_true hBefore (hA.not_noneBeside_head _)

/- A text has an address in it when the pattern occurs there. -/
theorem occursIn_pattern_iff {text : List Char} :
    pattern.occursIn text = true ↔ Holds (Numeral IsDecimal) text := by
  simp only [Pattern.occursIn_iff, fits_pattern_iff, Holds]

------------------------------------------------------------
-- Found Addresses
------------------------------------------------------------

/- Other digits can stand in a numeral in the place of those it has. -/
theorem Numeral.imp
    {P Q : Char → Prop}
    {n : List Char}
    (hNumeral : Numeral P n)
    (hDigits : ∀ c ∈ n, P c → Q c) :
    Numeral Q n := by
  cases hNumeral with
  | highest hLast => exact .highest hLast
  | high hMiddle hLast =>
      exact .high hMiddle (hDigits _ (by simp) hLast)
  | low hMiddle hLast =>
      exact .low (hDigits _ (by simp) hMiddle)
        (hDigits _ (by simp) hLast)
  | tens hFirst hLast => exact .tens hFirst (hDigits _ (by simp) hLast)
  | ones hDigit => exact .ones (hDigits _ (by simp) hDigit)

/- Other numbers of the text can stand in an address. -/
theorem Holds.imp
    {P Q : List Char → Prop}
    {text : List Char}
    (hHolds : Holds P text)
    (hNumbers : ∀ n, n ⊆ text → P n → Q n) :
    Holds Q text := by
  rcases hHolds with ⟨before, _, after, rfl,
    ⟨a, b, c, d, hA, hB, hC, hD, rfl⟩, hBefore, hAfter⟩
  refine ⟨before, _, after, rfl, ⟨a, b, c, d, ?_, ?_, ?_, ?_, rfl⟩,
    hBefore, hAfter⟩
  · exact hNumbers a (by intro x; simp; tauto) hA
  · exact hNumbers b (by intro x; simp; tauto) hB
  · exact hNumbers c (by intro x; simp; tauto) hC
  · exact hNumbers d (by intro x; simp; tauto) hD

/- Nodes are listed that have a text with an address in it. -/
def Lists
    (IsNumber : List Char → Prop)
    (t : Tree)
    (cs : List Cursor) : Prop :=
  ∀ c, c ∈ cs ↔ c.IsOf t ∧ ∃ text, c.node.text? = some text ∧
    Holds IsNumber text.toList

theorem holds_of_isOctet
    {text : List Char}
    (hHolds : Holds IsOctet text) :
    Holds (Numeral IsDecimal) text := by
  refine hHolds.imp fun n _ hOctet => ?_
  exact (numeral_of_isOctet hOctet).imp
    fun c _ hDigit => isDecimal_of_isDigit hDigit

theorem holds_of_digits
    {text : List Char}
    (hHolds : Holds (Numeral IsDecimal) text)
    (hAscii : ∀ d ∈ text, IsDecimal d → Digits.isDigit d = true) :
    Holds IsOctet text := by
  refine hHolds.imp fun n hSubset hNumeral => ?_
  exact isOctet_of_numeral
    (hNumeral.imp fun c hMember => hAscii c (hSubset hMember))

theorem message?_eq_some_iff {text message : String} :
    message? text = some message ↔
      message = "hardcoded IP" ∧
        Holds (Numeral IsDecimal) text.toList := by
  rw [← occursIn_pattern_iff, message?]
  cases pattern.occursIn text.toList <;> simp [eq_comm]

/- The scalars with an address in them, in document order. -/
def holders (t : Tree) : List Cursor :=
  (t.nodesWhere fun c => c.node.scalar?.isSome).filter
    fun c => (c.node.text?.bind message?).isSome

theorem holders_sublist (t : Tree) :
    (holders t).Sublist (Cursor.atRoot t).descendants := by
  exact List.filter_sublist.trans List.filter_sublist

/- The search lists them all, with one message. -/
theorem entries_find
    {t : Tree}
    (hKeys : t.UniqueKeys) :
    (find t).findings.entries =
      (holders t).map fun c => ⟨c.path, "hardcoded IP"⟩ := by
  apply Findings.entries_ofNodes_filter
  · exact (Cursor.nodup_paths_descendants hKeys).sublist
      (List.filter_sublist.map Cursor.path)
  · intro c message hSome
    rcases Option.bind_eq_some_iff.mp hSome with ⟨text, _, hMessage⟩
    exact (message?_eq_some_iff.mp hMessage).1

/- A text with an address in it may have digits of all scripts. -/
theorem lists_holders (t : Tree) :
    Lists (Numeral IsDecimal) t (holders t) := by
  intro c
  rw [holders, Tree.nodesWhere, List.mem_filter, List.mem_filter,
    Cursor.mem_descendants_iff, and_assoc]
  apply and_congr_right
  intro _
  simp only [Option.isSome_iff_exists, Option.bind_eq_some_iff,
    message?_eq_some_iff]
  constructor
  · intro hFound
    rcases hFound with ⟨_, _, text, hText, _, hHolds⟩
    exact ⟨text, hText, hHolds⟩
  · intro hFound
    rcases hFound with ⟨text, hText, hHolds⟩
    rcases Tree.text?_eq_some_iff.mp hText with ⟨s, hScalar, _⟩
    refine ⟨⟨s, ?_⟩, _, text, hText, rfl, hHolds⟩
    rw [hScalar, Tree.scalar?]

/-
  What is listed for digits of all scripts is listed for those
  of ASCII when each text with the one address has the other.
-/
theorem lists_isOctet_iff
    {t : Tree}
    {cs : List Cursor}
    (hLists : Lists (Numeral IsDecimal) t cs) :
    Lists IsOctet t cs ↔
      ∀ c : Cursor, c.IsOf t → ∀ text, c.node.text? = some text →
        Holds (Numeral IsDecimal) text.toList →
          Holds IsOctet text.toList := by
  constructor
  · intro hAscii c hOf text hText hHolds
    rcases (hAscii c).mp ((hLists c).mpr ⟨hOf, text, hText, hHolds⟩)
      with ⟨_, text', hText', hHolds'⟩
    rw [hText, Option.some.injEq] at hText'
    rwa [hText']
  · intro hTexts c
    rw [hLists c]
    apply and_congr_right
    intro hOf
    apply exists_congr
    intro text
    apply and_congr_right
    intro hText
    exact ⟨hTexts c hOf text hText, holds_of_isOctet⟩

/-
  A search finds the nodes whose texts have an address in them,
  once each and in the order of the document.  The last digits
  of its numerals may belong to any script, and the numerals are
  octets if the texts have digits of ASCII only.
-/
structure Finds (t : Tree) (cs : List Cursor) : Prop where
  nodup : (cs.map Cursor.path).Nodup
  ordered : cs.Pairwise fun c d => c.orderKey < d.orderKey
  lists : Lists (Numeral IsDecimal) t cs
  lists_isOctet_iff : Lists IsOctet t cs ↔
    ∀ c : Cursor, c.IsOf t → ∀ text, c.node.text? = some text →
      Holds (Numeral IsDecimal) text.toList →
        Holds IsOctet text.toList
  lists_isOctet :
    (∀ c : Cursor, c.IsOf t → ∀ text, c.node.text? = some text →
      ∀ d ∈ text.toList, IsDecimal d → Digits.isDigit d = true) →
    Lists IsOctet t cs

/- What is found has one finding each, and the document stays. -/
theorem find_lists_addresses
    (t : Tree)
    (hKeys : t.UniqueKeys) :
    ∃ r v, ∃ cs : List Cursor,
      Options.build .findAddress = .ok r ∧ r.visit t = .ok v ∧
      v.root? = none ∧
      v.findings.entries =
        cs.map (fun c => ⟨c.path, "hardcoded IP"⟩) ∧
      Finds t cs := by
  have hSublist := holders_sublist t
  have hLists := lists_holders t
  refine ⟨.findAddress, find t, holders t, rfl, rfl, rfl,
    entries_find hKeys, ?_, ?_, hLists, lists_isOctet_iff hLists, ?_⟩
  · exact (Cursor.nodup_paths_descendants hKeys).sublist
      (hSublist.map Cursor.path)
  · exact (Cursor.descendants_pairwise (.atRoot t)).sublist hSublist
  · intro hAscii
    rw [lists_isOctet_iff hLists]
    intro c hOf text hText hHolds
    exact holds_of_digits hHolds (hAscii c hOf text hText)

/- An address behind a scheme, one before a dot, and none. -/
theorem find_lists_addresses_pod :
    let t : Tree :=
      .mapping [("kind", .string "Pod"),
        ("args", .sequence [.string "http://10.1.2.3:8080",
          .string "1.2.3.4.5", .string "999.1.1.1"])]
    t.UniqueKeys ∧
    (find t).findings.entries =
      [⟨[.field "args", .index 0], "hardcoded IP"⟩,
        ⟨[.field "args", .index 1], "hardcoded IP"⟩] ∧
    ∃ cs : List Cursor,
      (find t).findings.entries =
        cs.map (fun c => ⟨c.path, "hardcoded IP"⟩) ∧
      Finds t cs := by
  intro t
  have hKeys : t.UniqueKeys := by decide
  rcases find_lists_addresses t hKeys with
    ⟨r, v, cs, hBuild, hVisit, _, hEntries, hFinds⟩
  obtain rfl : Recipe.findAddress = r := Except.ok.inj hBuild
  obtain rfl : find t = v := Except.ok.inj hVisit
  exact ⟨hKeys, by decide +kernel, cs, hEntries, hFinds⟩

/- A text with an address of ASCII in it has four digits or more. -/
theorem four_le_countP_of_holds
    {text : List Char}
    (hHolds : Holds IsOctet text) :
    4 ≤ text.countP Digits.isDigit := by
  have hDigit : ∀ {n}, IsOctet n → 0 < n.countP Digits.isDigit := by
    intro n hOctet
    rcases (numeral_of_isOctet hOctet).digits fun _ hDigit => hDigit
      with ⟨hGiven, hDigits⟩
    exact List.countP_pos_iff.mpr
      ⟨_, List.head_mem hGiven, hDigits _ (List.head_mem hGiven)⟩
  rcases hHolds with
    ⟨before, _, after, rfl, ⟨a, b, c, d, hA, hB, hC, hD, rfl⟩, _, _⟩
  have hFirst := hDigit hA
  have hSecond := hDigit hB
  have hThird := hDigit hC
  have hFourth := hDigit hD
  simp only [List.countP_append, List.countP_cons]
  omega

/- A number that is written in Arabic digits is found. -/
theorem finds_digit_of_another_script :
    let t : Tree := .mapping [("host", .string "1.2.3.٤")]
    t.UniqueKeys ∧
    (∃ r v, Options.build .findAddress = .ok r ∧ r.visit t = .ok v ∧
      v.findings.entries = [⟨[.field "host"], "hardcoded IP"⟩]) ∧
    ¬ Holds IsOctet "1.2.3.٤".toList := by
  intro t
  refine ⟨by decide, ⟨.findAddress, find t, rfl, rfl, by decide +kernel⟩,
    ?_⟩
  intro hHolds
  exact absurd (four_le_countP_of_holds hHolds) (by decide)

end Address

end ManifestRecipes
