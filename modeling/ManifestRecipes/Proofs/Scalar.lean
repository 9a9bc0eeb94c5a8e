import ManifestRecipes.Proofs.Tree.Yaml

/-
  Scalars that are given another text.

  A scalar that is given a text is written as the value that
  the text stands for, and whoever reads the value sees the
  text in which YAML writes it.  A string keeps any text.  Of
  the others a text is kept when it stands for a string, or is
  the one text in which its truth value or number is written:
  leading zeros, plus signs, other spellings of truth values
  and all names of infinities and of not-a-number are lost.

  Key definitions include:
    * `Scalar.IsCanonical`

  Main declarations:
    * `Scalar.reread_infer_iff`
    * `Scalar.withText_reread_iff`
-/

namespace ManifestRecipes

------------------------------------------------------------
-- Integers
------------------------------------------------------------

namespace Digits

theorem readUnsigned64?_writeInt_of_neg
    {i : Int}
    (hNegative : i < 0) :
    readUnsigned64? (writeInt i) = none := by
  rw [writeInt, if_pos hNegative]
  rfl

/- An integer whose text stands for one is of 64 bits. -/
theorem isWord64_of_isIntText
    {i : Int}
    (hText : Scalar.isIntText (textInt i) = true) :
    Yaml.Value.isWord64 i = true := by
  rw [Scalar.isIntText, textInt, String.toList_ofList,
    Bool.or_eq_true] at hText
  simp only [Yaml.Value.isWord64, Nat.pow_eq, Bool.and_eq_true,
    decide_eq_true_eq]
  push_cast
  rcases hText with hSigned | hUnsigned
  · have hWord : inSigned 64 i = true := by
      rw [readSigned64?_writeInt] at hSigned
      by_contra hOther
      rw [if_neg hOther] at hSigned
      cases hSigned
    simp only [inSigned, Nat.pow_eq, Bool.and_eq_true,
      decide_eq_true_eq] at hWord
    push_cast at hWord
    omega
  · have hPositive : ¬ i < 0 := by
      intro hNegative
      rw [readUnsigned64?_writeInt_of_neg hNegative] at hUnsigned
      cases hUnsigned
    rw [writeInt, if_neg hPositive] at hUnsigned
    rcases Option.isSome_iff_exists.mp hUnsigned with ⟨n, hRead⟩
    rw [readUnsigned64?_eq_some_iff (write_ne_nil _)
      fun _ => isDigit_of_mem_write, value_write, Nat.pow_eq]
      at hRead
    omega

end Digits

namespace Scalar

------------------------------------------------------------
-- Texts That Are Kept
------------------------------------------------------------

/-
  A text is canonical when it is the one in which YAML writes
  the value that it stands for as plain text.
-/
def IsCanonical (text : String) : Prop :=
  match inferKind text with
  | .null => text = ""
  | .bool => ∃ b, text = boolText b
  | .int => ∃ i, text = Digits.textInt i
  | .float => ∃ negative r,
      text = Yaml.numberNotation.render (.finite negative r)
  | .string => True

variable {text : String}

theorem isBoolText_of_inferKind (hKind : inferKind text = .bool) :
    isBoolText text = true := by
  unfold inferKind at hKind
  split_ifs at hKind with hNull hBool
  exact hBool

theorem isIntText_of_inferKind (hKind : inferKind text = .int) :
    isIntText text = true := by
  unfold inferKind at hKind
  split_ifs at hKind with hNull hBool hInt
  exact hInt

theorem isFloatText_of_inferKind (hKind : inferKind text = .float) :
    isFloatText text = true := by
  unfold inferKind at hKind
  split_ifs at hKind with hNull hBool hInt hFloat
  exact hFloat

/- Canonical texts are kept, and their kinds with them. -/
theorem reread_infer_of_isCanonical (hCanonical : IsCanonical text) :
    (infer text).reread = infer text := by
  unfold IsCanonical at hCanonical
  unfold infer
  cases hKind : inferKind text with
  | null =>
      simp only [hKind] at hCanonical
      rw [hCanonical]
      rfl
  | bool =>
      simp only [hKind] at hCanonical
      rcases hCanonical with ⟨b, rfl⟩
      cases b <;> decide
  | int =>
      simp only [hKind] at hCanonical
      rcases hCanonical with ⟨i, rfl⟩
      exact reread_int
        (Digits.isWord64_of_isIntText (isIntText_of_inferKind hKind))
  | float =>
      simp only [hKind] at hCanonical
      rcases hCanonical with ⟨negative, r, rfl⟩
      exact reread_finite negative r
  | string => rfl

/- Of the texts of truth values, two are kept. -/
theorem exists_boolText_of_reread
    (hBool : isBoolText text = true)
    (hKept : (reread ⟨text, .bool⟩).text = text) :
    ∃ b, text = boolText b := by
  have hTexts : ∀ text ∈
      ["true", "True", "TRUE", "false", "False", "FALSE"],
        (reread ⟨text, .bool⟩).text = text →
          text = boolText true ∨ text = boolText false := by
    decide
  rcases hTexts text (of_decide_eq_true hBool) hKept with h | h
  · exact ⟨true, h⟩
  · exact ⟨false, h⟩

/- An integer that is kept is written as one. -/
theorem exists_textInt_of_reread
    (hInt : isIntText text = true)
    (hKept : (reread ⟨text, .int⟩).text = text) :
    ∃ i, text = Digits.textInt i := by
  unfold reread toYaml at hKept
  simp only at hKept
  cases hSigned : Digits.readSigned64? text.toList with
  | some i =>
      rw [hSigned] at hKept
      exact ⟨i, hKept.symm⟩
  | none =>
      cases hUnsigned : Digits.readUnsigned64? text.toList with
      | some n =>
          rw [hSigned, hUnsigned] at hKept
          exact ⟨n, hKept.symm⟩
      | none =>
          rw [isIntText, hSigned, hUnsigned] at hInt
          cases hInt

/- A number that is kept is finite and written as one. -/
theorem exists_render_of_reread
    (hFloat : isFloatText text = true)
    (hKept : (reread ⟨text, .float⟩).text = text) :
    ∃ negative r,
      text = Yaml.numberNotation.render (.finite negative r) := by
  rcases Option.isSome_iff_exists.mp hFloat with ⟨m, hNumeral⟩
  have hNames : ∀ name ∈ [".nan", ".inf", "-.inf"],
      isFloatText name = false := by
    decide
  have hRead : Binary64.read? text.toList =
      some (Binary64.ofNumeral m) := by
    rw [Binary64.read?, hNumeral, Option.map_some]
  unfold reread toYaml at hKept
  simp only [hRead] at hKept
  -- The names of numbers that are not finite are no numerals.
  cases hNumber : Binary64.ofNumeral m with
  | nan =>
      rw [hNumber] at hKept
      rw [← hKept, hNames _ (by decide)] at hFloat
      cases hFloat
  | infinite negative =>
      rw [hNumber] at hKept
      rw [← hKept, hNames _ (by cases negative <;> decide)] at hFloat
      cases hFloat
  | finite negative r =>
      rw [hNumber] at hKept
      exact ⟨negative, r, hKept.symm⟩

/- Plain text is kept exactly when it is canonical. -/
theorem reread_infer_iff :
    (infer text).reread.text = text ↔ IsCanonical text := by
  constructor
  · intro hKept
    unfold infer at hKept
    unfold IsCanonical
    cases hKind : inferKind text with
    | null =>
        rw [hKind] at hKept
        exact hKept.symm
    | bool =>
        rw [hKind] at hKept
        exact exists_boolText_of_reread
          (isBoolText_of_inferKind hKind) hKept
    | int =>
        rw [hKind] at hKept
        exact exists_textInt_of_reread
          (isIntText_of_inferKind hKind) hKept
    | float =>
        rw [hKind] at hKept
        exact exists_render_of_reread
          (isFloatText_of_inferKind hKind) hKept
    | string => trivial
  · intro hCanonical
    rw [reread_infer_of_isCanonical hCanonical]
    rfl

------------------------------------------------------------
-- Rewritten Scalars
------------------------------------------------------------

/-
  A scalar that is given a text is read with this text exactly
  when it is a string or the text is canonical, and just then
  it is the same scalar altogether.
-/
theorem withText_reread_iff (s : Scalar) (text : String) :
    ((s.withText text).reread.text = text ↔
      s.kind = .string ∨ IsCanonical text) ∧
    ((s.withText text).reread = s.withText text ↔
      s.kind = .string ∨ IsCanonical text) := by
  by_cases hString : s.kind = .string
  · have hText : s.withText text = string text := by
      rw [withText, hString]
    rw [hText]
    exact ⟨iff_of_true rfl (Or.inl hString),
      iff_of_true rfl (Or.inl hString)⟩
  · have hText : s.withText text = infer text := by
      unfold withText
      split
      · contradiction
      · rfl
    rw [hText, or_iff_right hString]
    refine ⟨reread_infer_iff, ?_, reread_infer_of_isCanonical⟩
    intro hSame
    rw [← reread_infer_iff, hSame]
    rfl

/- A number loses the leading zero of the text that it is given. -/
theorem withText_loses_zero :
    isNullText "01" = false ∧
      ((infer "1").withText "01").reread.text ≠ "01" := by
  decide

end Scalar

end ManifestRecipes
