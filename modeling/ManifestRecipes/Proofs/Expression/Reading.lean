import ManifestRecipes.Expression.Reading
import ManifestRecipes.Proofs.Text
import ManifestRecipes.Proofs.Unicode

/-
  Reading what is written.

  A text is read step by step.  A step is read alike whatever
  follows it, as long as what follows does not go on with a
  name; this is so of every text that goes on with steps.

  Key definitions include:
    * `Expression.ReadsAs`
    * `Expression.Continues`

  Main declarations:
    * `Expression.readsAs_dotted`
    * `Expression.readsAs_bracket`
    * `Expression.readsAs_descent`
    * `Expression.Continues.cons`
    * `Expression.segmentsOf_root`
    * `Expression.segmentsOf_name`
    * `Expression.segmentsOf_steps`
-/

namespace ManifestRecipes

namespace Expression

variable {cs rest content text : List Char}
variable {s : Segment} {ss more : List Segment}

------------------------------------------------------------
-- Characters of Names
------------------------------------------------------------

theorem isNameChar_eq_false_of_mark
    {c : Char}
    (hMark : c = '.' ∨ c = '[' ∨ c = '*' ∨ c = '$') :
    Segment.isNameChar c = false := by
  rcases hMark with rfl | rfl | rfl | rfl <;> decide

theorem isBlank_eq_false_of_isNameChar
    {c : Char}
    (hName : Segment.isNameChar c = true) :
    Unicode.isBlank c = false := by
  simp only [Segment.isNameChar, Bool.or_eq_true,
    decide_eq_true_eq] at hName
  rcases hName with (hLetter | rfl) | rfl
  · exact Unicode.isBlank_eq_false_of_isAlphanumeric hLetter
  · decide
  · decide

/- A bare name is taken off the text that follows it. -/
theorem name_append
    (hBare : Segment.isBareName cs = true)
    (hEnds : Ends Segment.isNameChar rest) :
    name (cs ++ rest) = (String.ofList cs, rest) := by
  simp only [Segment.isBareName, Bool.and_eq_true,
    List.all_eq_true] at hBare
  rw [name, takeWhile_append hBare.2 hEnds,
    dropWhile_append hBare.2 hEnds]

theorem exists_head_of_isBareName
    (hBare : Segment.isBareName cs = true) :
    ∃ c ds, cs = c :: ds ∧ Segment.isNameChar c = true := by
  simp only [Segment.isBareName, Bool.and_eq_true,
    List.all_eq_true] at hBare
  cases cs with
  | nil => simp at hBare
  | cons c ds => exact ⟨c, ds, rfl, hBare.2 c List.mem_cons_self⟩

------------------------------------------------------------
-- Brackets
------------------------------------------------------------

/- The quote ends a quoted name. -/
theorem quoted?_quote
    {quote : Char}
    (hQuote : quote ≠ '\\')
    (cs : List Char) :
    quoted? quote (quote :: cs) = some ([], cs) := by
  unfold quoted?
  rw [if_neg hQuote, if_pos rfl]

/- Other characters than the quote and the backslash stand for themselves. -/
theorem quoted?_plain
    {quote c : Char}
    (hEscape : c ≠ '\\')
    (hQuote : c ≠ quote)
    (hRest : quoted? quote cs = some (text, rest)) :
    quoted? quote (c :: cs) = some (c :: text, rest) := by
  unfold quoted?
  rw [if_neg hEscape, if_neg hQuote, hRest]
  rfl

/- An escaped name is read to the quote behind it. -/
theorem quoted?_escapeName (cs rest : List Char) :
    quoted? '\'' (Path.escapeName cs ++ '\'' :: rest) =
      some (cs, rest) := by
  induction cs with
  | nil => exact quoted?_quote (by decide) rest
  | cons c cs ih =>
      have hTail :
          Path.escapeName (c :: cs) =
            (if c = '\\' || c = '\'' then ['\\', c] else [c]) ++
              Path.escapeName cs :=
        List.flatMap_cons
      rw [hTail, List.append_assoc]
      by_cases hEscaped : c = '\\' ∨ c = '\''
      · rw [if_pos (by simpa using hEscaped)]
        simp [quoted?, ih]
      · have hPlain := hEscaped
        rw [not_or] at hPlain
        rw [if_neg (by simpa using hEscaped)]
        exact quoted?_plain hPlain.1 hPlain.2 ih

theorem bracket_quoted (cs rest : List Char) :
    bracket ('\'' :: (Path.escapeName cs ++ ['\'', ']']) ++ rest) =
      .ok (.field (String.ofList cs), rest) := by
  have hQuoted := quoted?_escapeName cs (']' :: rest)
  simp [bracket, hQuoted, closed]

/- A bracket with the digits of a 64-bit number stands for the number. -/
theorem bracket_digits
    {digits : List Char}
    (hGiven : digits ≠ [])
    (hDigits : ∀ c ∈ digits, Digits.isDigit c = true)
    (hBound : Digits.value digits < Nat.pow 2 64)
    (rest : List Char) :
    bracket (digits ++ [']'] ++ rest) =
      .ok (.index (Digits.value digits), rest) := by
  have hEnds : Ends Digits.isDigit (']' :: rest) :=
    ends_cons_iff.mpr (by decide)
  have hTaken := takeWhile_append hDigits hEnds
  have hLeft := dropWhile_append hDigits hEnds
  have hRead :=
    (Digits.readUnsigned64?_eq_some_iff hGiven hDigits).mpr
      ⟨rfl, hBound⟩
  rw [List.append_assoc, List.singleton_append]
  cases digits with
  | nil => exact absurd rfl hGiven
  | cons c ds =>
      have hDigit : Digits.isDigit c = true :=
        hDigits c List.mem_cons_self
      have hStar : c ≠ '*' := ne_of_class hDigit (by decide)
      have hQuote : c ≠ '\'' := ne_of_class hDigit (by decide)
      have hDouble : c ≠ '"' := ne_of_class hDigit (by decide)
      rw [List.cons_append] at hTaken hLeft ⊢
      simp [bracket, hStar, hQuote, hDouble, hDigit, hTaken,
        hLeft, hRead, closed]

theorem bracket_write
    {i : Nat}
    (hBound : i < Nat.pow 2 64)
    (rest : List Char) :
    bracket (Digits.write i ++ [']'] ++ rest) =
      .ok (.index i, rest) := by
  have hDigits := bracket_digits (Digits.write_ne_nil i)
    (fun _ => Digits.isDigit_of_mem_write)
    (by rwa [Digits.value_write]) rest
  rwa [Digits.value_write] at hDigits

------------------------------------------------------------
-- One Step
------------------------------------------------------------

/-
  A text is read as one step, whatever follows it without
  going on with a name.
-/
def ReadsAs (text : List Char) (ss : List Segment) : Prop :=
  ∀ rest, Ends Segment.isNameChar rest →
    ∃ c cs, text ++ rest = c :: cs ∧ step c cs = .ok (ss, rest)

/- A bare name behind a dot stands for the name. -/
theorem readsAs_dotted
    (hBare : Segment.isBareName cs = true) :
    ReadsAs ('.' :: cs) [.field (String.ofList cs)] := by
  intro rest hEnds
  refine ⟨'.', cs ++ rest, rfl, ?_⟩
  have hName := name_append hBare hEnds
  rcases exists_head_of_isBareName hBare with ⟨c, ds, rfl, hHead⟩
  have hDot : c ≠ '.' := ne_of_class hHead (by decide)
  have hStar : c ≠ '*' := ne_of_class hHead (by decide)
  rw [List.cons_append] at hName ⊢
  unfold step
  rw [if_pos rfl]
  split
  · rename_i hCons
    exact absurd (List.cons.inj hCons).1 hDot
  · rename_i hCons
    exact absurd (List.cons.inj hCons).1 hStar
  · simp [hName]

theorem readsAs_star : ReadsAs ['.', '*'] [.everyField] := by
  intro rest _
  exact ⟨'.', '*' :: rest, rfl, rfl⟩

/- A bracket is read by its content. -/
theorem readsAs_bracket
    (hContent :
      ∀ rest, bracket (content ++ rest) = .ok (s, rest)) :
    ReadsAs ('[' :: content) [s] := by
  intro rest _
  refine ⟨'[', content ++ rest, rfl, ?_⟩
  unfold step
  rw [if_neg (by decide), if_pos rfl, hContent rest]
  rfl

/- Two dots and what they lead to stand for two segments. -/
theorem readsAs_descent
    (hTarget : ∀ rest, Ends Segment.isNameChar rest →
      afterDescent (text ++ rest) = .ok (s, rest)) :
    ReadsAs ('.' :: '.' :: text) [.descent, s] := by
  intro rest hEnds
  refine ⟨'.', '.' :: (text ++ rest), rfl, ?_⟩
  unfold step
  rw [if_pos rfl]
  simp only [hTarget rest hEnds]
  rfl

/- A bare name behind two dots stands for the name. -/
theorem afterDescent_bare
    (hBare : Segment.isBareName cs = true)
    (hEnds : Ends Segment.isNameChar rest) :
    afterDescent (cs ++ rest) =
      .ok (.field (String.ofList cs), rest) := by
  have hName := name_append hBare hEnds
  rcases exists_head_of_isBareName hBare with ⟨c, ds, rfl, hHead⟩
  have hStar : c ≠ '*' := ne_of_class hHead (by decide)
  have hBracket : c ≠ '[' := ne_of_class hHead (by decide)
  rw [List.cons_append] at hName ⊢
  unfold afterDescent
  split
  · rename_i hCons
    exact absurd (List.cons.inj hCons).1 hStar
  · rename_i hCons
    exact absurd (List.cons.inj hCons).1 hBracket
  · simp [hName]

/- Every step begins with a dot or a bracket. -/
theorem head_of_step
    {c : Char}
    (hStep : step c cs = .ok (ss, rest)) :
    c = '.' ∨ c = '[' := by
  unfold step at hStep
  split_ifs at hStep with hDot hBracket
  · exact Or.inl hDot
  · exact Or.inr hBracket

------------------------------------------------------------
-- Steps to the End
------------------------------------------------------------

/- A text consists of steps that stand for segments. -/
structure Continues
    (text : List Char)
    (ss : List Segment) : Prop where
  ends : Ends Segment.isNameChar text
  steps_eq : ∀ fuel, text.length ≤ fuel → steps fuel text = .ok ss

theorem continues_nil : Continues [] [] := by
  refine ⟨ends_nil, ?_⟩
  intro fuel _
  cases fuel <;> rfl

/- Reading goes on behind a step. -/
theorem steps_succ
    {c : Char}
    {fuel : Nat}
    (hStep : step c cs = .ok (ss, rest))
    (hRest : steps fuel rest = .ok more) :
    steps (fuel + 1) (c :: cs) = .ok (ss ++ more) := by
  rw [steps, hStep]
  simp only [bind, Except.bind, hRest]

/- A step goes on with the steps behind it. -/
theorem Continues.cons
    (hText : ReadsAs text ss)
    (hRest : Continues rest more) :
    Continues (text ++ rest) (ss ++ more) := by
  have hGiven : text ≠ [] := by
    intro hNone
    rcases hText [] ends_nil with ⟨c, cs, hCons, _⟩
    simp [hNone] at hCons
  rcases hText rest hRest.ends with ⟨c, cs, hCons, hStep⟩
  have hShorter : rest.length < (text ++ rest).length := by
    have hPositive := List.length_pos_iff.mpr hGiven
    rw [List.length_append]
    omega
  rw [hCons] at hShorter ⊢
  refine ⟨?_, ?_⟩
  · rw [ends_cons_iff]
    apply isNameChar_eq_false_of_mark
    rcases head_of_step hStep with hDot | hBracket
    · exact Or.inl hDot
    · exact Or.inr (Or.inl hBracket)
  · intro fuel hFuel
    cases fuel with
    | zero => simp at hFuel
    | succ fuel =>
        have hEnough : rest.length ≤ fuel := by omega
        exact steps_succ hStep (hRest.steps_eq fuel hEnough)

------------------------------------------------------------
-- Whole Expressions
------------------------------------------------------------

theorem trim_ne_nil
    {c : Char}
    (hMark : Unicode.isBlank c = false)
    (cs : List Char) :
    Unicode.trim (c :: cs) ≠ [] := by
  unfold Unicode.trim
  rw [List.dropWhile_cons_of_neg (by simp [hMark]), ne_eq,
    List.reverse_eq_nil_iff, List.dropWhile_eq_nil_iff]
  intro hBlank
  have hFirst := hBlank c (by simp)
  rw [hMark] at hFirst
  cases hFirst

/- A dollar sign and steps stand for the root and their segments. -/
theorem segmentsOf_root (hText : Continues text ss) :
    segmentsOf ('$' :: text) = .ok (.root :: ss) := by
  have hGiven : (Unicode.trim ('$' :: text)).isEmpty = false := by
    simpa using trim_ne_nil (c := '$') (by decide) text
  have hSteps := hText.steps_eq text.length le_rfl
  unfold segmentsOf
  simp only [hGiven, beginning]
  rw [hSteps]
  rfl

theorem beginning_name
    (hBare : Segment.isBareName cs = true)
    (hEnds : Ends Segment.isNameChar rest) :
    beginning (cs ++ rest) =
      ([.field (String.ofList cs)], rest) := by
  have hName := name_append hBare hEnds
  rcases exists_head_of_isBareName hBare with ⟨c, ds, rfl, hHead⟩
  have hDollar : c ≠ '$' := ne_of_class hHead (by decide)
  unfold beginning
  split
  · rename_i hCons
    exact absurd (List.cons.inj hCons).1 hDollar
  · rw [hName]
    simp

/- Steps have nothing before them. -/
theorem beginning_steps
    (hEnds : Ends Segment.isNameChar text)
    (hDollar : text.head? ≠ some '$') :
    beginning text = ([], text) := by
  have hNone : name text = ("", text) := by
    cases text with
    | nil => rfl
    | cons c cs => simp [name, ends_cons_iff.mp hEnds]
  unfold beginning
  split
  · exact absurd rfl hDollar
  · simp [hNone]

/- A bare name and steps stand for the name and their segments. -/
theorem segmentsOf_name
    (hBare : Segment.isBareName cs = true)
    (hText : Continues text ss) :
    segmentsOf (cs ++ text) =
      .ok (.field (String.ofList cs) :: ss) := by
  have hSteps := hText.steps_eq text.length le_rfl
  have hBeginning := beginning_name hBare hText.ends
  have hGiven : (Unicode.trim (cs ++ text)).isEmpty = false := by
    rcases exists_head_of_isBareName hBare with
      ⟨c, ds, rfl, hHead⟩
    have hMark := isBlank_eq_false_of_isNameChar hHead
    simpa using trim_ne_nil hMark (ds ++ text)
  unfold segmentsOf
  simp only [hGiven, hBeginning]
  rw [hSteps]
  rfl

/- Steps alone stand for their segments. -/
theorem segmentsOf_steps
    (hText : Continues text ss)
    (hGiven : ss ≠ []) :
    segmentsOf text = .ok ss := by
  have hSteps := hText.steps_eq text.length le_rfl
  cases text with
  | nil =>
      cases hSteps
      exact absurd rfl hGiven
  | cons c cs =>
      have hHead : c = '.' ∨ c = '[' := by
        cases hStep : step c cs with
        | ok result => exact head_of_step hStep
        | error stop =>
            rw [List.length_cons, steps, hStep] at hSteps
            cases hSteps
      have hBlank : (Unicode.trim (c :: cs)).isEmpty = false := by
        have hMark : Unicode.isBlank c = false := by
          rcases hHead with rfl | rfl <;> decide
        simpa using trim_ne_nil hMark cs
      have hBeginning : beginning (c :: cs) = ([], c :: cs) := by
        apply beginning_steps hText.ends
        rcases hHead with rfl | rfl <;> simp
      unfold segmentsOf
      simp only [hBlank, hBeginning]
      rw [hSteps]
      rfl

/- A text is read when it has segments. -/
theorem read_eq_ok_iff
    {source : String}
    {e : Expression} :
    read source = .ok e ↔
      ∃ ss, segmentsOf source.toList = .ok ss ∧
        e = ⟨source, ss⟩ := by
  cases hSegments : segmentsOf source.toList with
  | ok ss => simp [read, hSegments, eq_comm]
  | error stop => simp [read, hSegments]

theorem exists_fault_iff {source : String} :
    (∃ f, read source = .error f ∧ f.source = source) ↔
      ∀ ss, segmentsOf source.toList ≠ .ok ss := by
  cases hSegments : segmentsOf source.toList with
  | ok ss => simp [read, hSegments]
  | error stop => simp [read, hSegments]

theorem read_ofList
    (hSegments : segmentsOf text = .ok ss) :
    read (String.ofList text) = .ok ⟨String.ofList text, ss⟩ := by
  rw [read_eq_ok_iff, String.toList_ofList]
  exact ⟨ss, hSegments, rfl⟩

end Expression

end ManifestRecipes
