import ManifestRecipes.Proofs.Expression.Grammar
import ManifestRecipes.Proofs.Expression.Reading
import ManifestRecipes.Proofs.Failure

/-
  Reading by the grammar.

  What a derivation puts together is read as its segments, and
  whatever is read has been put together by a derivation.  No
  text has two of them: reading tells where each step ends, and
  steps are told by their texts.

  Main declarations:
    * `Grammar.Derivation.segmentsOf_chars`
    * `Grammar.exists_derivation_of_segmentsOf`
    * `Grammar.Derivation.eq_of_chars_eq`
    * `Expression.read_by_grammar`
-/

namespace ManifestRecipes

namespace Expression

variable {cs rest rest' : List Char}
variable {s : Segment} {ss : List Segment}

namespace Grammar

------------------------------------------------------------
-- Derived Texts Are Read
------------------------------------------------------------

/- Quoted characters are read to the quote behind them. -/
theorem quoted?_flatMap
    {q : Quote}
    (text : List (QuotedChar q))
    (rest : List Char) :
    quoted? q.char
        (text.flatMap QuotedChar.chars ++ q.char :: rest) =
      some (text.map QuotedChar.value, rest) := by
  induction text with
  | nil => exact quoted?_quote q.char_ne_backslash rest
  | cons x text ih =>
      rw [List.flatMap_cons, List.append_assoc]
      cases x with
      | plain c hEscape hQuote =>
          exact quoted?_plain hEscape hQuote ih
      | escaped c =>
          simp [QuotedChar.chars, QuotedChar.value, quoted?, ih]

theorem Bracket.bracket_content
    (b : Bracket)
    (rest : List Char) :
    bracket (b.content ++ [']'] ++ rest) =
      .ok (b.segment, rest) := by
  cases b with
  | everyItem => rfl
  | index i => exact bracket_digits i.given i.digits i.bound rest
  | name q text =>
      have hText := quoted?_flatMap text (']' :: rest)
      cases q <;>
        simp_all [content, segment, bracket, closed, Quote.char]

/- A target is read behind two dots. -/
theorem Target.afterDescent_chars
    (t : Target)
    (hEnds : Ends Segment.isNameChar rest) :
    afterDescent (t.chars ++ rest) = .ok (t.segment, rest) := by
  cases t with
  | name n => exact afterDescent_bare n.bare hEnds
  | everyField => rfl
  | bracket b => exact b.bracket_content rest

theorem Step.readsAs_chars (s : Step) :
    ReadsAs s.chars s.segments := by
  cases s with
  | name n => exact readsAs_dotted n.bare
  | everyField => exact readsAs_star
  | descent t =>
      exact readsAs_descent fun _ hEnds =>
        t.afterDescent_chars hEnds
  | bracket b => exact readsAs_bracket b.bracket_content

/- Steps are read to their end. -/
theorem continues_steps (steps : List Step) :
    Continues (steps.flatMap Step.chars)
      (steps.flatMap Step.segments) := by
  induction steps with
  | nil => exact continues_nil
  | cons s steps ih =>
      rw [List.flatMap_cons, List.flatMap_cons]
      exact ih.cons s.readsAs_chars

theorem segments_ne_nil (s : Step) (steps : List Step) :
    (s :: steps).flatMap Step.segments ≠ [] := by
  cases s <;> simp [Step.segments]

/- A derivation of some text is read as its segments. -/
theorem Derivation.segmentsOf_chars
    (d : Derivation)
    (hGiven : d.chars ≠ []) :
    segmentsOf d.chars = .ok d.segments := by
  rcases d with ⟨head, steps⟩
  have hSteps := continues_steps steps
  cases head with
  | none =>
      apply segmentsOf_steps hSteps
      cases steps with
      | nil => exact absurd rfl hGiven
      | cons s steps => exact segments_ne_nil s steps
  | root => exact segmentsOf_root hSteps
  | name n => exact segmentsOf_name n.bare hSteps

------------------------------------------------------------
-- Texts That Are Read Are Derived
------------------------------------------------------------

/- A text that is read to a quote consists of quoted characters. -/
theorem exists_of_quoted?
    {q : Quote}
    {text : List Char}
    (hRead : quoted? q.char cs = some (text, rest)) :
    ∃ xs : List (QuotedChar q),
      cs = xs.flatMap QuotedChar.chars ++ q.char :: rest ∧
        text = xs.map QuotedChar.value := by
  fun_induction quoted? q.char cs generalizing text with
  | case1 => cases hRead
  | case2 => cases hRead
  | case3 d ds ih =>
      simp only [Option.bind_eq_bind, Option.bind_eq_some_iff,
        Option.some.injEq, Prod.mk.injEq, Prod.exists] at hRead
      rcases hRead with ⟨later, rest, hLater, rfl, rfl⟩
      rcases ih hLater with ⟨xs, rfl, rfl⟩
      exact ⟨.escaped d :: xs, rfl, rfl⟩
  | case4 ds hEscape =>
      cases hRead
      exact ⟨[], rfl, rfl⟩
  | case5 c ds hEscape hQuote ih =>
      simp only [Option.bind_eq_bind, Option.bind_eq_some_iff,
        Option.some.injEq, Prod.mk.injEq, Prod.exists] at hRead
      rcases hRead with ⟨later, rest, hLater, rfl, rfl⟩
      rcases ih hLater with ⟨xs, rfl, rfl⟩
      exact ⟨.plain c hEscape hQuote :: xs, rfl, rfl⟩

theorem eq_of_closed
    {content : Segment}
    (hClosed : closed content cs = .ok (s, rest)) :
    s = content ∧ cs = ']' :: rest := by
  unfold closed at hClosed
  split at hClosed <;> cases hClosed
  exact ⟨rfl, rfl⟩

/- A run at the beginning is taken off what is behind it. -/
theorem exists_bareName_of_name
    {text : String}
    (hName : name cs = (text, rest))
    (hGiven : text.isEmpty = false) :
    ∃ n : BareName,
      cs = n.chars ++ rest ∧ text = String.ofList n.chars := by
  simp only [name, Prod.mk.injEq] at hName
  rcases hName with ⟨rfl, rfl⟩
  have hBare :
      Segment.isBareName (cs.takeWhile Segment.isNameChar) =
        true := by
    rw [Segment.isBareName, List.all_takeWhile, Bool.and_true]
    simpa using hGiven
  exact ⟨⟨_, hBare⟩, List.takeWhile_append_dropWhile.symm, rfl⟩

theorem exists_quote
    {c : Char}
    (hQuote : c = '\'' ∨ c = '"') :
    ∃ q : Quote, c = q.char := by
  rcases hQuote with rfl | rfl
  · exact ⟨.single, rfl⟩
  · exact ⟨.double, rfl⟩

/- Digits that are read are those of an index. -/
theorem exists_indexDigits_of_read
    {i : Nat}
    (hGiven : cs.takeWhile Digits.isDigit ≠ [])
    (hRead :
      Digits.readUnsigned64? (cs.takeWhile Digits.isDigit) =
        some i) :
    ∃ d : IndexDigits,
      cs = d.chars ++ cs.dropWhile Digits.isDigit ∧
        .index i = d.segment := by
  have hDigits : ∀ d ∈ cs.takeWhile Digits.isDigit,
      Digits.isDigit d = true :=
    fun _ hMember => List.mem_takeWhile_imp hMember
  rcases (Digits.readUnsigned64?_eq_some_iff hGiven hDigits).mp
    hRead with ⟨rfl, hBound⟩
  exact ⟨⟨_, hGiven, hDigits, hBound⟩,
    List.takeWhile_append_dropWhile.symm, rfl⟩

/- A bracket that is read is one of the grammar. -/
theorem exists_bracket_of_read
    (hRead : bracket cs = .ok (s, rest)) :
    ∃ b : Bracket,
      '[' :: cs = b.chars ++ rest ∧ s = b.segment := by
  unfold bracket at hRead
  cases cs with
  | nil => cases hRead
  | cons c cs =>
      simp only at hRead
      split_ifs at hRead with hStar hQuote hDigit
      · rcases eq_of_closed hRead with ⟨rfl, rfl⟩
        exact ⟨.everyItem, by rw [hStar]; rfl, rfl⟩
      · rcases exists_quote (by simpa using hQuote) with ⟨q, rfl⟩
        split at hRead
        · rename_i text behind hText
          rcases eq_of_closed hRead with ⟨rfl, rfl⟩
          rcases exists_of_quoted? hText with ⟨xs, rfl, rfl⟩
          exact ⟨.name q xs,
            by simp [Bracket.chars, Bracket.content], rfl⟩
        · cases hRead
      · split at hRead
        · rename_i i hIndex
          rcases eq_of_closed hRead with ⟨rfl, hEnd⟩
          rcases exists_indexDigits_of_read (by simp [hDigit]) hIndex
            with ⟨d, hText, hSegment⟩
          rw [hEnd] at hText
          refine ⟨.index d, ?_, hSegment⟩
          rw [hText]
          simp [Bracket.chars, Bracket.content]
        · cases hRead

/- What is read behind two dots is a target. -/
theorem exists_target_of_read
    (hRead : afterDescent cs = .ok (s, rest)) :
    ∃ t : Target, cs = t.chars ++ rest ∧ s = t.segment := by
  unfold afterDescent at hRead
  split at hRead
  · cases hRead
    exact ⟨.everyField, rfl, rfl⟩
  · rcases exists_bracket_of_read hRead with ⟨b, hText, hSegment⟩
    exact ⟨.bracket b, hText, hSegment⟩
  · rcases hName : name cs with ⟨text, behind⟩
    rw [hName] at hRead
    simp only at hRead
    split_ifs at hRead with hNone
    cases hRead
    rcases exists_bareName_of_name hName (by simpa using hNone)
      with ⟨n, hText, rfl⟩
    exact ⟨.name n, hText, rfl⟩

/- What is read as a step is one. -/
theorem exists_step_of_read
    {c : Char}
    (hRead : step c cs = .ok (ss, rest)) :
    ∃ s : Step, c :: cs = s.chars ++ rest ∧ ss = s.segments := by
  unfold step at hRead
  split_ifs at hRead with hDot hBracket
  · subst hDot
    split at hRead
    · rcases exists_of_bind_eq_ok hRead with
        ⟨⟨s, behind⟩, hTarget, hDone⟩
      cases hDone
      rcases exists_target_of_read hTarget with ⟨t, rfl, rfl⟩
      exact ⟨.descent t, rfl, rfl⟩
    · cases hRead
      exact ⟨.everyField, rfl, rfl⟩
    · rcases hName : name cs with ⟨text, behind⟩
      rw [hName] at hRead
      simp only at hRead
      split_ifs at hRead with hNone
      cases hRead
      rcases exists_bareName_of_name hName (by simpa using hNone)
        with ⟨n, rfl, rfl⟩
      exact ⟨.name n, rfl, rfl⟩
  · subst hBracket
    rcases exists_of_bind_eq_ok hRead with
      ⟨⟨s, behind⟩, hContent, hDone⟩
    cases hDone
    rcases exists_bracket_of_read hContent with ⟨b, hText, rfl⟩
    exact ⟨.bracket b, hText, rfl⟩

/- What is read to the end of a text consists of steps. -/
theorem exists_steps_of_read
    {fuel : Nat}
    (hRead : steps fuel cs = .ok ss) :
    ∃ more : List Step,
      cs = more.flatMap Step.chars ∧
        ss = more.flatMap Step.segments := by
  induction fuel generalizing cs ss with
  | zero =>
      cases cs with
      | nil =>
          cases hRead
          exact ⟨[], rfl, rfl⟩
      | cons c cs => cases hRead
  | succ fuel ih =>
      cases cs with
      | nil =>
          cases hRead
          exact ⟨[], rfl, rfl⟩
      | cons c cs =>
          rcases exists_of_bind_eq_ok hRead with
            ⟨⟨first, behind⟩, hStep, hRest⟩
          rcases exists_of_bind_eq_ok hRest with
            ⟨later, hLater, hDone⟩
          cases hDone
          rcases exists_step_of_read hStep with ⟨s, hText, rfl⟩
          rcases ih hLater with ⟨more, rfl, rfl⟩
          exact ⟨s :: more, hText, rfl⟩

/- A text begins with the beginning of an expression. -/
theorem exists_head (cs : List Char) :
    ∃ h : Head, cs = h.chars ++ (beginning cs).2 ∧
      (beginning cs).1 = h.segments := by
  unfold beginning
  split
  · exact ⟨.root, rfl, rfl⟩
  · rcases hName : name cs with ⟨text, behind⟩
    simp only
    split_ifs with hNone
    · exact ⟨.none, rfl, rfl⟩
    · rcases exists_bareName_of_name hName (by simpa using hNone)
        with ⟨n, hText, rfl⟩
      exact ⟨.name n, hText, rfl⟩

/- A text that is read has a derivation. -/
theorem exists_derivation_of_segmentsOf
    (hRead : segmentsOf cs = .ok ss) :
    cs ≠ [] ∧
      ∃ d : Derivation, d.chars = cs ∧ ss = d.segments := by
  unfold segmentsOf at hRead
  split_ifs at hRead with hBlank
  have hGiven : cs ≠ [] := by
    intro hNone
    exact hBlank (by rw [hNone]; rfl)
  rcases exists_of_bind_eq_ok hRead with ⟨more, hMore, hDone⟩
  cases hDone
  rcases exists_head cs with ⟨head, hText, hSegments⟩
  rcases exists_steps_of_read hMore with ⟨steps, hSteps, rfl⟩
  have hChars : (Derivation.mk head steps).chars = cs := by
    rw [Derivation.chars, ← hSteps]
    exact hText.symm
  exact ⟨hGiven, ⟨head, steps⟩, hChars,
    congrArg (· ++ steps.flatMap Step.segments) hSegments⟩

------------------------------------------------------------
-- One Derivation for Each Text
------------------------------------------------------------

/- A step is told from what follows it. -/
theorem Step.eq_of_append_eq
    {s s' : Step}
    (hEnds : Ends Segment.isNameChar rest)
    (hEnds' : Ends Segment.isNameChar rest')
    (hText : s.chars ++ rest = s'.chars ++ rest') :
    s = s' ∧ rest = rest' := by
  rcases s.readsAs_chars rest hEnds with ⟨c, cs, hCons, hRead⟩
  rcases s'.readsAs_chars rest' hEnds' with ⟨d, ds, hCons', hRead'⟩
  -- Both are read off the same text and leave the same rest.
  rw [← hText, hCons] at hCons'
  cases hCons'
  rw [hRead, Except.ok.injEq, Prod.mk.injEq] at hRead'
  rcases hRead' with ⟨_, rfl⟩
  exact ⟨Step.eq_of_chars_eq (List.append_cancel_right hText), rfl⟩

/- Steps are told by their texts. -/
theorem steps_eq_of_flatMap_eq
    {steps steps' : List Step}
    (hText : steps.flatMap Step.chars = steps'.flatMap Step.chars) :
    steps = steps' := by
  induction steps generalizing steps' with
  | nil =>
      cases steps' with
      | nil => rfl
      | cons s steps' => cases s <;> cases hText
  | cons s steps ih =>
      cases steps' with
      | nil => cases s <;> cases hText
      | cons s' steps' =>
          rw [List.flatMap_cons, List.flatMap_cons] at hText
          rcases Step.eq_of_append_eq (continues_steps steps).ends
            (continues_steps steps').ends hText with ⟨rfl, hRest⟩
          rw [ih hRest]

/- Beginnings are told by their text. -/
theorem Head.eq_of_chars_eq
    {h h' : Head}
    (hText : h.chars = h'.chars) :
    h = h' := by
  have hNone : ∀ n : BareName, n.chars ≠ [] := by
    intro n hEmpty
    rcases n.exists_head with ⟨c, cs, hHead, _⟩
    rw [hEmpty] at hHead
    cases hHead
  have hDollar : ∀ n : BareName, n.chars ≠ ['$'] :=
    fun n => Target.name_ne (by decide) []
  cases h with
  | none =>
      cases h' with
      | none => rfl
      | root => cases hText
      | name m => exact absurd hText.symm (hNone m)
  | root =>
      cases h' with
      | none => cases hText
      | root => rfl
      | name m => exact absurd hText.symm (hDollar m)
  | name n =>
      cases h' with
      | none => exact absurd hText (hNone n)
      | root => exact absurd hText (hDollar n)
      | name m => rw [BareName.eq_of_chars_eq hText]

/- The beginning is taken off the steps behind it. -/
theorem Head.beginning_chars
    (h : Head)
    (steps : List Step) :
    beginning (h.chars ++ steps.flatMap Step.chars) =
      (h.segments, steps.flatMap Step.chars) := by
  have hEnds := (continues_steps steps).ends
  cases h with
  | root => rfl
  | name n => exact beginning_name n.bare hEnds
  | none =>
      apply beginning_steps hEnds
      cases steps with
      | nil => simp
      | cons s steps =>
          cases s <;> simp [Step.chars, Bracket.chars]

/- A text has at most one derivation. -/
theorem Derivation.eq_of_chars_eq
    {d d' : Derivation}
    (hText : d.chars = d'.chars) :
    d = d' := by
  rcases d with ⟨head, steps⟩
  rcases d' with ⟨head', steps'⟩
  have hLeft := head.beginning_chars steps
  have hRight := head'.beginning_chars steps'
  simp only [Derivation.chars] at hText
  rw [hText, hRight, Prod.mk.injEq] at hLeft
  have hSteps := steps_eq_of_flatMap_eq hLeft.2
  subst hSteps
  rw [Head.eq_of_chars_eq (List.append_cancel_right hText)]

end Grammar

------------------------------------------------------------
-- The Grammar of Expressions
------------------------------------------------------------

/- The texts with segments are those with a derivation but the empty one. -/
theorem segmentsOf_eq_ok_iff :
    segmentsOf cs = .ok ss ↔
      cs ≠ [] ∧
        ∃ d : Grammar.Derivation, d.chars = cs ∧ ss = d.segments := by
  constructor
  · exact Grammar.exists_derivation_of_segmentsOf
  · rintro ⟨hGiven, d, rfl, rfl⟩
    exact d.segmentsOf_chars hGiven

/-
  The texts that are read are those of the grammar, apart from
  the empty one.  Each of them has one derivation and is read
  as the segments that it stands for; all others are faulty.
-/
theorem read_by_grammar (source : String) :
    (∀ e, read source = .ok e ↔
      source ≠ "" ∧ ∃ d : Grammar.Derivation,
        (d.chars = source.toList ∧
          ∀ d' : Grammar.Derivation,
            d'.chars = source.toList → d' = d) ∧
        e = ⟨source, d.segments⟩) ∧
    ((∃ f, read source = .error f ∧ f.source = source) ↔
      ¬ (source ≠ "" ∧
        ∃ d : Grammar.Derivation, d.chars = source.toList)) := by
  have hEmpty : source.toList ≠ [] ↔ source ≠ "" := by simp
  constructor
  · intro e
    simp only [read_eq_ok_iff, segmentsOf_eq_ok_iff, hEmpty]
    constructor
    · rintro ⟨ss, ⟨hGiven, d, hText, rfl⟩, rfl⟩
      have hOnly : ∀ d' : Grammar.Derivation,
          d'.chars = source.toList → d' = d :=
        fun d' hText' => Grammar.Derivation.eq_of_chars_eq
          (hText'.trans hText.symm)
      exact ⟨hGiven, d, ⟨hText, hOnly⟩, rfl⟩
    · rintro ⟨hGiven, d, ⟨hText, _⟩, rfl⟩
      exact ⟨d.segments, ⟨hGiven, d, hText, rfl⟩, rfl⟩
  · simp only [exists_fault_iff, ne_eq, segmentsOf_eq_ok_iff]
    constructor
    · rintro hNone ⟨hGiven, d, hText⟩
      exact hNone d.segments ⟨hEmpty.mpr hGiven, d, hText, rfl⟩
    · rintro hNone ss ⟨hChars, d, hText, _⟩
      exact hNone ⟨hEmpty.mp hChars, d, hText⟩

end Expression

end ManifestRecipes
