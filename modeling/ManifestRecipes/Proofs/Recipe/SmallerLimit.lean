import ManifestRecipes.Proofs.Binary64.Notation
import ManifestRecipes.Proofs.Recipe.Independence

/-
  Lowering quantities to one limit after another.

  A limit admits a largest whole count of each unit, and a
  larger count gives way to it.  What two limits admit one
  after the other is what the smaller one admits, whatever the
  units are: the first never cuts off more than the two of
  them do.  The same text is left in the end, and the scalar
  is of the same kind.

  Key definitions include:
    * `QuantityLimit.admitted`
    * `QuantityLimit.lowered`

  Main declarations:
    * `Scalar.inferKind_quantity`
    * `QuantityLimit.revised_rule`
    * `QuantityLimit.joins_rule`
    * `QuantityLimit.after_after`
    * `QuantityLimit.lowered_twice`
-/

namespace ManifestRecipes

------------------------------------------------------------
-- Quantities as Plain Text
------------------------------------------------------------

theorem Quantity.Unit.exists_letter
    {u : Quantity.Unit}
    (hOther : u ≠ .one) :
    ∃ c cs, u.suffix.toList = c :: cs ∧
      Digits.digitValue? 10 c = none ∧ (c ≠ '+' ∧ c ≠ '-') ∧
        Numeral.exponent? (c :: cs) = none := by
  cases u with
  | one => exact absurd rfl hOther
  | _ => exact ⟨_, _, rfl, by decide, by decide, by decide⟩

namespace Scalar

variable {q : Quantity} {s : Scalar} {a b : String}

/- A text that begins with a digit is no name. -/
theorem not_name_of_digit
    {text : String}
    (hDigit : text.toList.head?.any Digits.isDigit = true) :
    isNullText text = false ∧ isBoolText text = false := by
  have hNames : ∀ name ∈
      ["", "~", "null", "Null", "NULL"] ++
        ["true", "True", "TRUE", "false", "False", "FALSE"],
      name.toList.head?.any Digits.isDigit = false := by
    decide
  have hOther : text ∉ ["", "~", "null", "Null", "NULL"] ++
      ["true", "True", "TRUE", "false", "False", "FALSE"] := by
    intro hMember
    have hNone := hNames text hMember
    rw [hDigit] at hNone
    cases hNone
  rw [List.mem_append, not_or] at hOther
  exact ⟨decide_eq_false hOther.1, decide_eq_false hOther.2⟩

theorem head_quantity (q : Quantity) :
    q.text.toList.head?.any Digits.isDigit = true := by
  rcases List.exists_cons_of_ne_nil
      (Digits.write_ne_nil q.relative) with
    ⟨c, cs, hText⟩
  have hDigit : Digits.isDigit c = true :=
    Digits.isDigit_of_mem_write (hText ▸ List.mem_cons_self)
  simp [Quantity.text, Digits.text, hText, hDigit]

/- A 64-bit count of ones stands for an integer. -/
theorem isIntText_quantity
    (hBound : q.relative < Nat.pow 2 64)
    (hOne : q.unit = .one) :
    isIntText q.text = true := by
  have hText : q.text.toList = Digits.write q.relative := by
    simp [Quantity.text, Digits.text, hOne, Quantity.Unit.suffix]
  rw [isIntText, hText, Digits.readUnsigned64?_write hBound]
  simp

/- A count of another unit is no numeral. -/
theorem not_numeral_quantity (hOther : q.unit ≠ .one) :
    isIntText q.text = false ∧ isFloatText q.text = false := by
  have hOwn : q.unit.IsSuffix q.unit.suffix := Or.inl rfl
  have hText : q.text.toList =
      Digits.write q.relative ++ q.unit.suffix.toList := by
    simp [Quantity.text, Digits.text]
  obtain ⟨c, cs, hSuffix, hLetter, hSign, hExponent⟩ :=
    Quantity.Unit.exists_letter hOther
  have hLater : c ∈ q.text.toList := by
    rw [hText, hSuffix]
    exact List.mem_append_right _ List.mem_cons_self
  constructor
  · rw [isIntText, Digits.readSigned64?, Digits.readUnsigned64?,
      Digits.readInt?_eq_none hLetter hSign hLater,
      Digits.readUnsigned?_eq_none hLetter hSign.1 hLater]
    rfl
  · have hRead := Numeral.read?_whole false
      (Digits.write_ne_nil q.relative)
      (fun _ => Digits.isDigit_of_mem_write)
      hOwn.head.1 hOwn.head.2
    rw [hSuffix, hExponent] at hRead
    rw [isFloatText, hText, hSuffix]
    exact congrArg Option.isSome hRead

/- Counts of ones stand for integers, those of other units for strings. -/
theorem inferKind_quantity (hBound : q.relative < Nat.pow 2 64) :
    inferKind q.text = if q.unit = .one then .int else .string := by
  rcases not_name_of_digit (head_quantity q) with ⟨hNull, hBool⟩
  unfold inferKind
  rw [hNull, hBool]
  by_cases hOne : q.unit = .one
  · simp [hOne, isIntText_quantity hBound hOne]
  · rcases not_numeral_quantity hOne with ⟨hInt, hFloat⟩
    simp [hOne, hInt, hFloat]

/- Of two texts of one kind only the last one counts. -/
theorem withText_withText (hKind : inferKind a = inferKind b) :
    (s.withText a).withText b = s.withText b := by
  rcases s with ⟨text, kind⟩
  cases kind with
  | string => rfl
  | _ =>
      simp only [withText, infer]
      rw [hKind]
      cases hOther : inferKind b <;> rfl

/- The same holds where the scalar has neither yet. -/
theorem retext_retext_of_inferKind_eq
    (hKind : inferKind a = inferKind b)
    (hOther : s.text ≠ b) :
    (s.retext a).retext b = s.retext b := by
  by_cases hSame : a = b
  · rw [hSame, retext_retext]
  · by_cases hFirst : s.text = a
    · have hKept : s.retext a = s := if_pos hFirst
      rw [hKept]
    · have hGiven : s.retext a = s.withText a := if_neg hFirst
      have hGiven' : s.retext b = s.withText b := if_neg hOther
      rw [hGiven, hGiven', ← withText_withText hKind]
      apply if_neg
      rwa [withText_text]

end Scalar

------------------------------------------------------------
-- Limits at the Same Places
------------------------------------------------------------

namespace QuantityLimit

open Quantity (Written)

variable {l l₁ l₂ : QuantityLimit} {t : Tree} {s : Scalar}
variable {n : Nat} {u : Quantity.Unit}

/- The largest count of a unit that is not above the limit. -/
def admitted (l : QuantityLimit) (u : Quantity.Unit) : Nat :=
  (l.limit.inUnit u).relative

theorem lt_scaled_iff :
    l.limit.absolute < n * u.scale ↔ l.admitted u < n := by
  exact (Nat.div_lt_iff_lt_mul u.scale_pos).symm

theorem text_inUnit_congr
    {l' : QuantityLimit}
    (hSame : l'.admitted u = l.admitted u) :
    (l'.limit.inUnit u).text = (l.limit.inUnit u).text := by
  exact congrArg (Digits.text · ++ u.suffix) hSame

/- The smaller of two limits admits the smaller of two counts. -/
theorem admitted_eq_min
    (hLeast : l.limit.absolute =
      min l₁.limit.absolute l₂.limit.absolute)
    (u : Quantity.Unit) :
    l.admitted u = min (l₁.admitted u) (l₂.admitted u) := by
  have hMonotone : Monotone fun absolute => absolute / u.scale :=
    fun _ _ hLe => Nat.div_le_div_right hLe
  change l.limit.absolute / u.scale =
    min (l₁.limit.absolute / u.scale) (l₂.limit.absolute / u.scale)
  rw [hLeast]
  exact hMonotone.map_min

/- A count above what is admitted gives way to it. -/
theorem revised_rule (hWritten : Written s.text n u) :
    l.rule.revised s =
      if l.admitted u < n then s.retext (l.limit.inUnit u).text
      else s := by
  have hRead : Quantity.read s.text = .ok ⟨n * u.scale, u⟩ :=
    Quantity.read_eq_ok_iff.mpr ⟨n, hWritten, rfl⟩
  simp only [TextRule.revised, rule, replacement?, hRead,
    lt_scaled_iff, loweredText]
  split_ifs <;> rfl

/- What it gives way to is a count as well. -/
theorem written_inUnit
    (hWritten : Written s.text n u)
    (hExceeds : l.admitted u < n) :
    Written (s.retext (l.limit.inUnit u).text).text
      (l.admitted u) u := by
  rcases hWritten with ⟨_, _, _, _, _, _, hBound, _⟩
  rw [Scalar.retext_text]
  exact Quantity.written_text (hExceeds.trans hBound) u

theorem inferKind_inUnit_eq
    (hWritten : Written s.text n u)
    (hLeft : l₁.admitted u < n)
    (hRight : l₂.admitted u < n) :
    Scalar.inferKind (l₁.limit.inUnit u).text =
      Scalar.inferKind (l₂.limit.inUnit u).text := by
  rcases hWritten with ⟨_, _, _, _, _, _, hBound, _⟩
  rw [Scalar.inferKind_quantity (hLeft.trans hBound),
    Scalar.inferKind_quantity (hRight.trans hBound)]
  rfl

/- The text of a limit is not that of a count above it. -/
theorem text_ne_inUnit
    (hWritten : Written s.text n u)
    (hExceeds : l.admitted u < n) :
    s.text ≠ (l.limit.inUnit u).text := by
  intro hSame
  have hLowered := written_inUnit hWritten hExceeds
  rw [Scalar.retext_text, ← hSame] at hLowered
  have hCounts := (hWritten.unique hLowered).1
  omega

/-
  What is left by one limit and then by another is what the
  smaller one leaves at once.
-/
theorem revised_revised
    (hLeast : ∀ u, l.admitted u =
      min (l₁.admitted u) (l₂.admitted u))
    (hWritten : Written s.text n u) :
    l₂.rule.revised (l₁.rule.revised s) = l.rule.revised s := by
  have hBoth := hLeast u
  rw [revised_rule hWritten, revised_rule hWritten]
  -- The second limit sees what the first one admits, if it cuts.
  by_cases hFirst : l₁.admitted u < n
  · rw [if_pos hFirst, if_pos (by omega),
      revised_rule (written_inUnit hWritten hFirst)]
    by_cases hSecond : l₂.admitted u < l₁.admitted u
    · have hExceeds : l₂.admitted u < n := hSecond.trans hFirst
      have hText : (l₂.limit.inUnit u).text =
          (l.limit.inUnit u).text :=
        text_inUnit_congr (by omega)
      rw [if_pos hSecond, ← hText]
      exact Scalar.retext_retext_of_inferKind_eq
        (inferKind_inUnit_eq hWritten hFirst hExceeds)
        (text_ne_inUnit hWritten hExceeds)
    · have hText : (l₁.limit.inUnit u).text =
          (l.limit.inUnit u).text :=
        text_inUnit_congr (by omega)
      rw [if_neg hSecond, hText]
  · rw [if_neg hFirst, revised_rule hWritten]
    by_cases hSecond : l₂.admitted u < n
    · have hText : (l₂.limit.inUnit u).text =
          (l.limit.inUnit u).text :=
        text_inUnit_congr (by omega)
      rw [if_pos hSecond, if_pos (by omega), hText]
    · rw [if_neg hSecond, if_neg (by omega)]

/- A revised quantity is still one. -/
theorem isQuantity_revised
    (hText : s.isNull = false)
    (hWritten : Written s.text n u) :
    (l.rule.revised s).isNull = false ∧
      ∃ n u, Written (l.rule.revised s).text n u := by
  rw [revised_rule hWritten]
  by_cases hExceeds : l.admitted u < n
  · rw [if_pos hExceeds]
    refine ⟨?_, _, u, written_inUnit hWritten hExceeds⟩
    by_contra hNull
    rw [Bool.not_eq_false] at hNull
    have hNullText := Scalar.isNullText_of_retext hText hNull
    rw [(Scalar.not_name_of_digit (Scalar.head_quantity _)).1]
      at hNullText
    cases hNullText
  · rw [if_neg hExceeds]
    exact ⟨hText, n, u, hWritten⟩

/- Two limits join into the smaller one. -/
theorem joins_rule
    (hBound : l₁.bound = l.bound ∧ l₂.bound = l.bound)
    (hKind : l₁.kind = l.kind ∧ l₂.kind = l.kind)
    (hLeast : l.limit.absolute =
      min l₁.limit.absolute l₂.limit.absolute) :
    TextRule.Joins l₁.rule l₂.rule l.rule where
  place := by
    simp only [rule, hBound.1, hBound.2, hKind.1, hKind.2,
      and_self]
  faulty := ⟨rfl, rfl⟩
  sound := by
    intro s hText hFaultless
    rcases not_not.mp hFaultless with ⟨n, u, hWritten⟩
    rcases isQuantity_revised (l := l₁) hText hWritten with
      ⟨hNull, hCount⟩
    exact ⟨hNull, not_not.mpr hCount⟩
  revised := by
    intro s _ hFaultless
    rcases not_not.mp hFaultless with ⟨n, u, hWritten⟩
    exact revised_revised (admitted_eq_min hLeast) hWritten

------------------------------------------------------------
-- Limits One After the Other
------------------------------------------------------------

/- A document comes out of two limits as out of the smaller one. -/
theorem after_after
    (hBound : l₁.bound = l.bound ∧ l₂.bound = l.bound)
    (hKind : l₁.kind = l.kind ∧ l₂.kind = l.kind)
    (hLeast : l.limit.absolute =
      min l₁.limit.absolute l₂.limit.absolute)
    (hKeys : t.UniqueKeys) :
    (Recipe.capQuantity l₂).after ((Recipe.capQuantity l₁).after t) =
      (Recipe.capQuantity l).after t := by
  have hFirst := l₁.yields_after hKeys
  exact (joins_rule hBound hKind hLeast).yields_eq hFirst
    (l₂.yields_after (hFirst.uniqueKeys hKeys))
    (l.yields_after hKeys)

/- The document with the quantities above the limit lowered. -/
def lowered (l : QuantityLimit) (t : Tree) :
    Except Quantity.Fault Tree := do
  let v ← l.cap t
  .ok (v.result t)

theorem lowered_eq (l : QuantityLimit) (t : Tree) :
    l.lowered t =
      (l.quantities t).map fun _ => (Recipe.capQuantity l).after t := by
  have hVisit : (Recipe.capQuantity l).visit t = l.cap t := rfl
  unfold lowered Recipe.after
  rw [hVisit, cap, exceeding]
  cases l.quantities t <;> rfl

theorem lowered_eq_ok_iff {t' : Tree} :
    l.lowered t = .ok t' ↔
      (∃ all, l.quantities t = .ok all) ∧
        (Recipe.capQuantity l).after t = t' := by
  rw [lowered_eq]
  cases l.quantities t <;> simp [Except.map]

theorem lowered_eq_error_iff {f : Quantity.Fault} :
    l.lowered t = .error f ↔ l.quantities t = .error f := by
  rw [lowered_eq]
  cases l.quantities t <;> simp [Except.map]

theorem quantities_congr
    {l' : QuantityLimit}
    (hBound : l'.bound = l.bound)
    (hKind : l'.kind = l.kind) :
    l'.quantities t = l.quantities t := by
  rw [quantities, quantities, hBound, hKind]

theorem isError_quantities_iff (hKeys : t.UniqueKeys) :
    (∃ f, l.quantities t = .error f) ↔ l.rule.Fails t := by
  simp only [← exceeding_eq_error_iff]
  exact isError_exceeding_iff hKeys

/- Lowering to two limits is lowering to the smaller one. -/
theorem lowered_bind
    (hBound : l₁.bound = l.bound ∧ l₂.bound = l.bound)
    (hKind : l₁.kind = l.kind ∧ l₂.kind = l.kind)
    (hLeast : l.limit.absolute =
      min l₁.limit.absolute l₂.limit.absolute)
    (hKeys : t.UniqueKeys) :
    (l₁.lowered t >>= l₂.lowered) = l.lowered t := by
  have hJoins := joins_rule hBound hKind hLeast
  have hFirst := l₁.yields_after hKeys
  have hSame := quantities_congr (t := t) hBound.1 hKind.1
  cases hRead : l.quantities t with
  | error f =>
      rw [lowered_eq_error_iff.mpr hRead,
        lowered_eq_error_iff.mpr (hSame.trans hRead)]
      rfl
  | ok all =>
      have hSound : ¬ l.rule.Fails t := by
        rw [← isError_quantities_iff hKeys, hRead]
        simp
      have hSecond := hJoins.not_fails hFirst hSound
      rw [← isError_quantities_iff (hFirst.uniqueKeys hKeys)]
        at hSecond
      rw [lowered_eq_ok_iff.mpr ⟨⟨all, hRead⟩, rfl⟩,
        lowered_eq_ok_iff.mpr ⟨⟨all, hSame.trans hRead⟩, rfl⟩]
      refine lowered_eq_ok_iff.mpr
        ⟨?_, after_after hBound hKind hLeast hKeys⟩
      cases hAgain :
          l₂.quantities ((Recipe.capQuantity l₁).after t) with
      | error f => exact absurd ⟨f, hAgain⟩ hSecond
      | ok rest => exact ⟨rest, rfl⟩

theorem isError_lowered_iff (hKeys : t.UniqueKeys) :
    (∃ f, l.lowered t = .error f) ↔
      ∃ p s, l.Selects t p s ∧
        ¬ ∃ n u, Written s.text n u := by
  simp only [lowered_eq_error_iff]
  exact isError_quantities_iff hKeys

/- Elsewhere each count becomes what is admitted of it. -/
theorem exists_lowered_count
    {t' : Tree}
    {p : Path}
    (hKeys : t.UniqueKeys)
    (hDone : l.lowered t = .ok t')
    (hSelects : l.Selects t p s)
    (hWritten : Written s.text n u) :
    ∃ s', t'.lookup? p = some (.scalar s') ∧
      Written s'.text (min n (l.admitted u)) u := by
  rcases lowered_eq_ok_iff.mp hDone with ⟨⟨all, hRead⟩, rfl⟩
  have hSound : ¬ l.rule.Fails t := by
    rw [← isError_quantities_iff hKeys, hRead]
    simp
  refine ⟨_, (l.yields_after hKeys).lookup?_of_holdsText hSound
    hSelects, ?_⟩
  rw [revised_rule hWritten]
  by_cases hExceeds : l.admitted u < n
  · rw [if_pos hExceeds, min_eq_right hExceeds.le]
    exact written_inUnit hWritten hExceeds
  · rw [if_neg hExceeds, min_eq_left (Nat.le_of_not_lt hExceeds)]
    exact hWritten

/-
  Lowering the same quantities to two limits one after the
  other, in either order, makes the document, or fails in the
  way, that lowering them once to the smaller limit does.  This
  fails where a quantity cannot be read, and elsewhere brings
  every count down to what the limit admits of its unit.
-/
theorem lowered_twice
    (l₁ l₂ l : QuantityLimit)
    (t : Tree)
    (hBound : l₁.bound = l.bound ∧ l₂.bound = l.bound)
    (hKind : l₁.kind = l.kind ∧ l₂.kind = l.kind)
    (hLeast : l.limit.absolute =
      min l₁.limit.absolute l₂.limit.absolute)
    (hKeys : t.UniqueKeys) :
    (l₁.lowered t >>= l₂.lowered) = l.lowered t ∧
    (l₂.lowered t >>= l₁.lowered) = l.lowered t ∧
    ((∃ f, l.lowered t = .error f) ↔
      ∃ p s, l.Selects t p s ∧ ¬ ∃ n u, Written s.text n u) ∧
    ∀ t', l.lowered t = .ok t' → ∀ p s n u,
      l.Selects t p s → Written s.text n u →
        ∃ s', t'.lookup? p = some (.scalar s') ∧
          Written s'.text (min n (l.admitted u)) u := by
  refine ⟨lowered_bind hBound hKind hLeast hKeys,
    lowered_bind hBound.symm hKind.symm ?_ hKeys,
    isError_lowered_iff hKeys, ?_⟩
  · rw [hLeast, min_comm]
  · intro t' hDone p s n u hSelects hWritten
    exact exists_lowered_count hKeys hDone hSelects hWritten

/-
  Limits of 64 binary and 65 decimal millions for memory in
  four units, of which three are above both.
-/
theorem lowered_twice_pod :
    let l₁ : QuantityLimit :=
      ⟨.limits, .memory, "64Mi", ⟨67108864000, .mebi⟩⟩
    let l₂ : QuantityLimit :=
      ⟨.limits, .memory, "65M", ⟨65000000000, .mega⟩⟩
    let container (memory : Scalar) : Tree :=
      .mapping [("resources", .mapping [("limits",
        .mapping [("memory", .scalar memory)])])]
    let pod (memories : List Scalar) : Tree :=
      .mapping [("kind", .string "Pod"),
        ("spec", .mapping [("containers",
          .sequence (memories.map container))])]
    let t := pod [.infer "128Mi", .infer "70000K",
      .infer "100000000", .infer "1Ki"]
    let t₁ := pod [.infer "64Mi", .infer "67108k",
      .infer "67108864", .infer "1Ki"]
    let t₂ := pod [.infer "61Mi", .infer "65000k",
      .infer "65000000", .infer "1Ki"]
    t.UniqueKeys ∧
    l₂.limit.absolute = min l₁.limit.absolute l₂.limit.absolute ∧
    l₁.lowered t = .ok t₁ ∧ l₂.lowered t = .ok t₂ ∧
    (l₁.lowered t >>= l₂.lowered) = .ok t₂ ∧
    (l₂.lowered t >>= l₁.lowered) = .ok t₂ := by
  intro l₁ l₂ container pod t t₁ t₂
  have hKeys : t.UniqueKeys := by decide +kernel
  have hLeast : l₂.limit.absolute =
      min l₁.limit.absolute l₂.limit.absolute := by
    decide
  have hFirst : l₁.lowered t = .ok t₁ :=
    eq_ok_of_toOption (by decide +kernel)
  have hSecond : l₂.lowered t = .ok t₂ :=
    eq_ok_of_toOption (by decide +kernel)
  rcases lowered_twice l₁ l₂ l₂ t ⟨rfl, rfl⟩ ⟨rfl, rfl⟩ hLeast
      hKeys with
    ⟨hBoth, hBoth', _⟩
  exact ⟨hKeys, hLeast, hFirst, hSecond, hBoth.trans hSecond,
    hBoth'.trans hSecond⟩

end QuantityLimit

end ManifestRecipes
