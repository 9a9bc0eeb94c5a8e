import ManifestRecipes.Proofs.Expression.Derivation

/-
  Where the reading of an expression stops.

  Reading stops in front of the first part of a text that is no
  step, or in front of what should have closed a bracket.  All
  that is before this place begins some step, so that it can be
  continued to an expression.

  Key definitions include:
    * `Expression.Repairable`

  Main declarations:
    * `Grammar.exists_bracket_of_stop`
    * `Grammar.exists_step_of_stop`
    * `Grammar.exists_derivation_of_stop`
    * `Expression.fault_position_repairable`
-/

namespace ManifestRecipes

namespace Bytes

theorem count_append (cs ds : List Char) :
    count (cs ++ ds) = count cs + count ds := by
  induction cs with
  | nil => exact (Nat.zero_add _).symm
  | cons c cs ih =>
      rw [List.cons_append, count, count, ih, Nat.add_assoc]

theorem utf8ByteSize_ofList (cs : List Char) :
    (String.ofList cs).utf8ByteSize = count cs := by
  induction cs with
  | nil => rfl
  | cons c cs ih =>
      rw [String.ofList_cons, String.utf8ByteSize_append,
        String.utf8ByteSize_singleton, ih, count]

end Bytes

namespace Expression

variable {c : Char} {cs : List Char} {stop : Stop}

namespace Grammar

------------------------------------------------------------
-- Steps That Are Not Read to Their End
------------------------------------------------------------

theorem rest_eq_of_closed
    {s : Segment}
    (hStop : closed s cs = .error stop) :
    stop.rest = cs := by
  unfold closed at hStop
  split at hStop <;> cases hStop
  rfl

/-
  Where a bracket is not read, a bracket begins with what is
  before the stop: nothing, or the opening and the content.
-/
theorem exists_bracket_of_stop
    (hStop : bracket cs = .error stop) :
    ∃ before, '[' :: cs = before ++ stop.rest ∧
      ∃ b : Bracket, before <+: b.chars := by
  -- Most faults are reported at the opening.
  have hOpening : stop.rest = '[' :: cs → ∃ before,
      '[' :: cs = before ++ stop.rest ∧
        ∃ b : Bracket, before <+: b.chars := by
    intro hRest
    exact ⟨[], hRest.symm, .everyItem, List.nil_prefix⟩
  have hContent : ∀ b : Bracket, cs = b.content ++ stop.rest →
      ∃ before, '[' :: cs = before ++ stop.rest ∧
        ∃ b : Bracket, before <+: b.chars := by
    intro b hText
    refine ⟨'[' :: b.content, by rw [hText, List.cons_append],
      b, ?_⟩
    rw [Bracket.chars, ← List.cons_append]
    exact List.prefix_append _ _
  unfold bracket at hStop
  cases cs with
  | nil =>
      cases hStop
      exact hOpening rfl
  | cons c cs =>
      simp only at hStop
      split_ifs at hStop with hStar hQuote hDigit
      · apply hContent .everyItem
        rw [rest_eq_of_closed hStop, hStar]
        rfl
      · rcases exists_quote (by simpa using hQuote) with ⟨q, rfl⟩
        split at hStop
        · rename_i text behind hText
          rcases exists_of_quoted? hText with ⟨xs, rfl, rfl⟩
          apply hContent (.name q xs)
          rw [rest_eq_of_closed hStop]
          simp [Bracket.content]
        · cases hStop
          exact hOpening rfl
      · split at hStop
        · rename_i i hIndex
          rcases exists_indexDigits_of_read (by simp [hDigit]) hIndex
            with ⟨d, hText, _⟩
          apply hContent (.index d)
          rw [rest_eq_of_closed hStop]
          exact hText
        · cases hStop
          exact hOpening rfl
      · cases hStop
        exact hOpening rfl

/- Where no target is read, a target begins with what is before the stop. -/
theorem exists_target_of_stop
    (hStop : afterDescent cs = .error stop) :
    stop.rest = '.' :: '.' :: cs ∨
      ∃ before, cs = before ++ stop.rest ∧
        ∃ t : Target, before <+: t.chars := by
  unfold afterDescent at hStop
  split at hStop
  · cases hStop
  · rcases exists_bracket_of_stop hStop with
      ⟨before, hText, b, hBegins⟩
    exact .inr ⟨before, hText, .bracket b, hBegins⟩
  · rcases hName : name cs with ⟨text, behind⟩
    rw [hName] at hStop
    simp only at hStop
    split_ifs at hStop
    cases hStop
    exact .inl rfl

/- Where no step is read, a step begins with what is before the stop. -/
theorem exists_step_of_stop
    (hStop : step c cs = .error stop) :
    ∃ before, c :: cs = before ++ stop.rest ∧
      ∃ s : Step, before <+: s.chars := by
  have hFirst : stop.rest = c :: cs → ∃ before,
      c :: cs = before ++ stop.rest ∧
        ∃ s : Step, before <+: s.chars := by
    intro hRest
    exact ⟨[], hRest.symm, .everyField, List.nil_prefix⟩
  unfold step at hStop
  split_ifs at hStop with hDot hBracket
  · subst hDot
    split at hStop
    · rcases exists_of_bind_eq_error hStop with
        hTarget | ⟨_, _, hDone⟩
      · rcases exists_target_of_stop hTarget with
          hRest | ⟨before, rfl, t, hBegins⟩
        · exact hFirst hRest
        · refine ⟨'.' :: '.' :: before, rfl, .descent t, ?_⟩
          simpa [Step.chars] using hBegins
      · cases hDone
    · cases hStop
    · rcases hName : name cs with ⟨text, behind⟩
      rw [hName] at hStop
      simp only at hStop
      split_ifs at hStop
      cases hStop
      exact hFirst rfl
  · subst hBracket
    rcases exists_of_bind_eq_error hStop with
      hContent | ⟨_, _, hDone⟩
    · rcases exists_bracket_of_stop hContent with
        ⟨before, hText, b, hBegins⟩
      exact ⟨before, hText, .bracket b, hBegins⟩
    · cases hDone
  · cases hStop
    exact hFirst rfl

/- Steps begin with what is before the stop. -/
theorem exists_steps_of_stop
    {fuel : Nat}
    (hStop : steps fuel cs = .error stop) :
    ∃ before, cs = before ++ stop.rest ∧
      ∃ ss : List Step, before <+: ss.flatMap Step.chars := by
  induction fuel generalizing cs with
  | zero =>
      cases cs with
      | nil => cases hStop
      | cons c cs =>
          cases hStop
          exact ⟨[], rfl, [], List.nil_prefix⟩
  | succ fuel ih =>
      cases cs with
      | nil => cases hStop
      | cons c cs =>
          rcases exists_of_bind_eq_error hStop with
            hStep | ⟨⟨first, behind⟩, hStep, hRest⟩
          · rcases exists_step_of_stop hStep with
              ⟨before, hText, s, hBegins⟩
            exact ⟨before, hText, [s], by simpa using hBegins⟩
          · rcases exists_of_bind_eq_error hRest with
              hLater | ⟨_, _, hDone⟩
            · rcases exists_step_of_read hStep with ⟨s, hText, _⟩
              rcases ih hLater with ⟨before, rfl, ss, hBegins⟩
              refine ⟨s.chars ++ before, ?_, s :: ss, ?_⟩
              · rw [hText, List.append_assoc]
              · simpa using hBegins
            · cases hDone

/- An expression begins with what is before the stop. -/
theorem exists_derivation_of_stop
    (hStop : segmentsOf cs = .error stop) :
    ∃ before, cs = before ++ stop.rest ∧
      ∃ d : Derivation, before <+: d.chars ∧ d.chars ≠ [] := by
  unfold segmentsOf at hStop
  split_ifs at hStop with hBlank
  · cases hStop
    exact ⟨[], rfl, ⟨.root, []⟩, List.nil_prefix, by decide⟩
  · rcases exists_of_bind_eq_error hStop with
      hSteps | ⟨_, _, hDone⟩
    · rcases exists_head cs with ⟨head, hText, _⟩
      rcases exists_steps_of_stop hSteps with
        ⟨before, hRest, ss, hBegins⟩
      -- A star is put behind the steps, so that there is some text.
      refine ⟨head.chars ++ before, ?_,
        ⟨head, ss ++ [.everyField]⟩, ?_, ?_⟩
      · rw [List.append_assoc, ← hRest]
        exact hText
      · rw [Derivation.chars, List.flatMap_append,
          List.prefix_append_right_inj]
        exact hBegins.trans (List.prefix_append _ _)
      · simp [Derivation.chars, Step.chars]
    · cases hDone

end Grammar

------------------------------------------------------------
-- Positions of Faults
------------------------------------------------------------

/- A text that can be continued to an expression. -/
def Repairable (text : String) : Prop :=
  ∃ more e, read (text ++ more) = .ok e

/- What an expression begins with can be continued to it. -/
theorem repairable_of_derivation
    {before : List Char}
    {d : Grammar.Derivation}
    (hGiven : d.chars ≠ [])
    (hBegins : before <+: d.chars) :
    Repairable (String.ofList before) := by
  rcases hBegins with ⟨more, hText⟩
  refine ⟨String.ofList more, ⟨String.ofList d.chars, d.segments⟩, ?_⟩
  rw [← String.ofList_append, hText]
  exact read_ofList (d.segmentsOf_chars hGiven)

theorem Repairable.of_append
    {text more : String}
    (hText : Repairable (text ++ more)) :
    Repairable text := by
  rcases hText with ⟨rest, e, hRead⟩
  exact ⟨more ++ rest, e, by rwa [← String.append_assoc]⟩

/- A beginning of a text ends before a character or goes on with it. -/
theorem utf8ByteSize_le_or_exists_append
    {before after start rest : String}
    {c : Char}
    (hText : before ++ after = start ++ String.singleton c ++ rest) :
    before.utf8ByteSize ≤ start.utf8ByteSize ∨
      ∃ more, before = start ++ String.singleton c ++ more := by
  rw [String.append_assoc, ← String.toList_inj, String.toList_append,
    String.toList_append, List.append_eq_append_iff] at hText
  rcases hText with ⟨more, hStart, _⟩ | ⟨more, hBefore, hRest⟩
  · left
    have hSame : start = before ++ String.ofList more := by
      rw [← String.toList_inj, hStart]
      simp
    rw [hSame, String.utf8ByteSize_append]
    exact Nat.le_add_right _ _
  · cases more with
    | nil =>
        left
        rw [List.append_nil, String.toList_inj] at hBefore
        rw [hBefore]
    | cons d more =>
        right
        simp only [String.toList_append, String.toList_singleton,
          List.cons_append, List.cons.injEq] at hRest
        refine ⟨String.ofList more, ?_⟩
        rw [← String.toList_inj, hBefore, hRest.1]
        simp

/-
  The fault of a text lies at the boundary of two of its
  characters.  The text before it can be continued to an
  expression, so it does not lie behind any character with
  which the text can no longer be continued to one.
-/
theorem fault_position_repairable
    (source : String)
    (f : Fault)
    (hFault : read source = .error f) :
    (String.Pos.Raw.mk f.position).IsValid source ∧
    f.position ≤ source.utf8ByteSize ∧
    ∃ before after,
      source = before ++ after ∧
      f.position = before.utf8ByteSize ∧
      Repairable before ∧
      ∀ start c rest,
        source = start ++ String.singleton c ++ rest →
        ¬ Repairable (start ++ String.singleton c) →
        f.position ≤ start.utf8ByteSize := by
  cases hStop : segmentsOf source.toList with
  | ok ss =>
      simp only [read, hStop] at hFault
      cases hFault
  | error stop =>
      simp only [read, hStop, Except.error.injEq] at hFault
      rcases Grammar.exists_derivation_of_stop hStop with
        ⟨before, hText, d, hBegins, hGiven⟩
      have hSource :
          source = String.ofList before ++ String.ofList stop.rest := by
        rw [← String.ofList_append, ← hText, String.ofList_toList]
      have hPosition :
          f.position = (String.ofList before).utf8ByteSize := by
        rw [← hFault, hText, Bytes.count_append,
          Bytes.utf8ByteSize_ofList]
        exact Nat.add_sub_cancel _ _
      have hRepairable := repairable_of_derivation hGiven hBegins
      refine ⟨?_, ?_, _, _, hSource, hPosition, hRepairable, ?_⟩
      · rw [String.Pos.Raw.isValid_iff_exists_append]
        exact ⟨_, _, hSource, by rw [hPosition]; rfl⟩
      · rw [hPosition, hSource, String.utf8ByteSize_append]
        exact Nat.le_add_right _ _
      · intro start c rest hOther hLost
        rw [hPosition]
        rcases utf8ByteSize_le_or_exists_append (hSource ▸ hOther) with
          hBefore | ⟨more, hMore⟩
        · exact hBefore
        · rw [hMore] at hRepairable
          exact absurd hRepairable.of_append hLost

/-
  In a text with two-byte characters the missing bracket is
  reported behind the index, at the eleventh byte.
-/
theorem fault_position_repairable_bracket :
    read "$.größe[1" =
      .error ⟨"$.größe[1", 11, .bracketEnd⟩ ∧
    (String.Pos.Raw.mk 11).IsValid "$.größe[1" ∧
    11 ≤ "$.größe[1".utf8ByteSize ∧
    ∃ before after,
      "$.größe[1" = before ++ after ∧
      11 = before.utf8ByteSize ∧
      Repairable before ∧
      ∀ start c rest,
        "$.größe[1" = start ++ String.singleton c ++ rest →
        ¬ Repairable (start ++ String.singleton c) →
        11 ≤ start.utf8ByteSize := by
  have hFault : read "$.größe[1" =
      .error ⟨"$.größe[1", 11, .bracketEnd⟩ := by
    decide +kernel
  exact ⟨hFault, fault_position_repairable _ _ hFault⟩

end Expression

end ManifestRecipes
