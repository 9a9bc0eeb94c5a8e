import ManifestRecipes.Proofs.Expression.Derivation
import ManifestRecipes.Proofs.Spelling

/-
  Canonical texts.

  The segments of an expression that is read are those of
  steps, possibly behind the root, and every such list of
  segments has a text of its own by which it is read back.

  Key definitions include:
    * `Segment.IsStep`
    * `Expression.Walk`
    * `Expression.WellFormed`

  Main declarations:
    * `Expression.wellFormed_iff_walk`
    * `Expression.wellFormed_of_read`
    * `Expression.rooted_of_read`
    * `Expression.continues_writeFrom`
    * `Expression.read_canonical_exact`
-/

namespace ManifestRecipes

/-
  Segments that take a step by themselves.  Indices are 64-bit
  numbers.
-/
def Segment.IsStep : Segment → Prop
  | .root => False
  | .descent => False
  | .index i => i < Nat.pow 2 64
  | _ => True

namespace Expression

variable {s : Segment} {ss : List Segment}
variable {cs rest : List Char}

------------------------------------------------------------
-- Lists of Segments
------------------------------------------------------------

/- The segments that some steps stand for, one after the other. -/
inductive Walk : List Segment → Prop where
  /- No step stands for no segment. -/
  | nil :
      Walk []
  /- A step stands for its segment. -/
  | step {s : Segment} {ss : List Segment}
      (hStep : s.IsStep)
      (hRest : Walk ss) :
      Walk (s :: ss)
  /- A step behind two dots stands for a descent as well. -/
  | descent {s : Segment} {ss : List Segment}
      (hStep : s.IsStep)
      (hRest : Walk ss) :
      Walk (.descent :: s :: ss)

/-
  Segment lists of expressions: they are not empty, have the
  root at their head or nowhere, and every descent in them
  leads to a segment that is neither a descent nor the root.
  Indices are 64-bit numbers.
-/
structure WellFormed (ss : List Segment) : Prop where
  given : ss ≠ []
  root : ∀ i, ss[i]? = some .root → i = 0
  descent : ∀ i, ss[i]? = some .descent →
    ∃ s, ss[i + 1]? = some s ∧ s ≠ .descent ∧ s ≠ .root
  index : ∀ i, .index i ∈ ss → i < Nat.pow 2 64

theorem ne_of_isStep (hStep : s.IsStep) :
    s ≠ .descent ∧ s ≠ .root := by
  constructor <;>
    · intro hOther
      subst hOther
      exact hStep

/- No step stands for the root. -/
theorem Walk.root_not_mem (hWalk : Walk ss) :
    Segment.root ∉ ss := by
  induction hWalk with
  | nil => exact List.not_mem_nil
  | step hStep _ ih =>
      rw [List.mem_cons, not_or]
      exact ⟨(ne_of_isStep hStep).2.symm, ih⟩
  | descent hStep _ ih =>
      rw [List.mem_cons, List.mem_cons, not_or, not_or]
      exact ⟨by simp, (ne_of_isStep hStep).2.symm, ih⟩

/- A descent leads to a segment that takes a step. -/
theorem Walk.after_descent
    (hWalk : Walk ss)
    {i : Nat}
    (hDescent : ss[i]? = some .descent) :
    ∃ s, ss[i + 1]? = some s ∧ s ≠ .descent ∧ s ≠ .root := by
  induction hWalk generalizing i with
  | nil => simp at hDescent
  | step hStep _ ih =>
      cases i with
      | zero =>
          rw [List.getElem?_cons_zero, Option.some.injEq]
            at hDescent
          exact absurd hDescent (ne_of_isStep hStep).1
      | succ i => exact ih hDescent
  | @descent s ss hStep _ ih =>
      match i with
      | 0 => exact ⟨s, rfl, ne_of_isStep hStep⟩
      | 1 =>
          have hSame : s = .descent := Option.some.inj hDescent
          exact absurd hSame (ne_of_isStep hStep).1
      | i + 2 => exact ih hDescent

/- The indices among the steps are 64-bit numbers. -/
theorem Walk.index_lt
    (hWalk : Walk ss)
    {i : Nat}
    (hMember : .index i ∈ ss) :
    i < Nat.pow 2 64 := by
  induction hWalk with
  | nil => cases hMember
  | step hStep _ ih =>
      rcases List.mem_cons.mp hMember with rfl | hLater
      · exact hStep
      · exact ih hLater
  | descent hStep _ ih =>
      rcases List.mem_cons.mp hMember with hHead | hMember
      · cases hHead
      · rcases List.mem_cons.mp hMember with rfl | hLater
        · exact hStep
        · exact ih hLater

/- Segments without the root are those of steps. -/
theorem walk_of_targets
    (hRootless : Segment.root ∉ ss)
    (hDescent : ∀ i, ss[i]? = some .descent →
      ∃ s, ss[i + 1]? = some s ∧ s ≠ .descent ∧ s ≠ .root)
    (hIndex : ∀ i, .index i ∈ ss → i < Nat.pow 2 64) :
    Walk ss := by
  induction ss with
  | nil => exact .nil
  | cons s ss ih =>
      rw [List.mem_cons, not_or] at hRootless
      have hRest : Walk ss :=
        ih hRootless.2 (fun i => hDescent (i + 1))
          fun i hMember => hIndex i (List.mem_cons_of_mem _ hMember)
      cases s with
      | root => exact absurd rfl hRootless.1
      | field name => exact .step trivial hRest
      | everyItem => exact .step trivial hRest
      | everyField => exact .step trivial hRest
      | index i => exact .step (hIndex i List.mem_cons_self) hRest
      | descent =>
          rcases hDescent 0 rfl with ⟨s, hNext, hOther, _⟩
          rw [List.getElem?_cons_succ] at hNext
          cases hRest with
          | nil => cases hNext
          | step hStep hWalk => exact .descent hStep hWalk
          | descent _ _ =>
              cases hNext
              exact absurd rfl hOther

/-
  Well-formed segments are those of steps, alone or behind the
  root.
-/
theorem wellFormed_iff_walk :
    WellFormed ss ↔
      (ss ≠ [] ∧ Walk ss) ∨
        ∃ more, ss = .root :: more ∧ Walk more := by
  constructor
  · intro hForm
    by_cases hHead : ss.head? = some .root
    · right
      rcases List.head?_eq_some_iff.mp hHead with ⟨more, rfl⟩
      refine ⟨more, rfl, walk_of_targets ?_ ?_ ?_⟩
      · intro hMember
        rcases List.mem_iff_getElem?.mp hMember with ⟨i, hAt⟩
        have hFirst := hForm.root (i + 1) hAt
        cases hFirst
      · exact fun i => hForm.descent (i + 1)
      · exact fun i hMember =>
          hForm.index i (List.mem_cons_of_mem _ hMember)
    · left
      refine ⟨hForm.given, walk_of_targets ?_ hForm.descent
        hForm.index⟩
      intro hMember
      rcases List.mem_iff_getElem?.mp hMember with ⟨i, hAt⟩
      have hFirst := hForm.root i hAt
      rw [hFirst, ← List.head?_eq_getElem?] at hAt
      exact hHead hAt
  · rintro (⟨hGiven, hWalk⟩ | ⟨more, rfl, hWalk⟩)
    · refine ⟨hGiven, ?_, fun i => hWalk.after_descent,
        fun i => hWalk.index_lt⟩
      intro i hAt
      exact absurd (List.mem_of_getElem? hAt) hWalk.root_not_mem
    · refine ⟨by simp, ?_, ?_, ?_⟩
      · intro i hAt
        cases i with
        | zero => rfl
        | succ i =>
            rw [List.getElem?_cons_succ] at hAt
            exact absurd (List.mem_of_getElem? hAt)
              hWalk.root_not_mem
      · intro i hAt
        cases i with
        | zero => cases hAt
        | succ i => exact hWalk.after_descent hAt
      · intro i hMember
        rcases List.mem_cons.mp hMember with hHead | hLater
        · cases hHead
        · exact hWalk.index_lt hLater

------------------------------------------------------------
-- Segments That Are Read
------------------------------------------------------------

theorem Grammar.Bracket.isStep_segment (b : Bracket) :
    b.segment.IsStep := by
  cases b with
  | everyItem => trivial
  | index i => exact i.bound
  | name q text => trivial

theorem Grammar.Target.isStep_segment (t : Target) :
    t.segment.IsStep := by
  cases t with
  | name n => trivial
  | everyField => trivial
  | bracket b => exact b.isStep_segment

/- The steps of a derivation stand for steps. -/
theorem Grammar.walk_segments (steps : List Step) :
    Walk (steps.flatMap Step.segments) := by
  induction steps with
  | nil => exact .nil
  | cons s steps ih =>
      cases s with
      | name n => exact .step trivial ih
      | everyField => exact .step trivial ih
      | descent t => exact .descent t.isStep_segment ih
      | bracket b => exact .step b.isStep_segment ih

/- The segments of a text are well-formed. -/
theorem wellFormed_of_segmentsOf
    (hSegments : segmentsOf cs = .ok ss) :
    WellFormed ss := by
  rcases segmentsOf_eq_ok_iff.mp hSegments with
    ⟨hGiven, ⟨head, steps⟩, rfl, rfl⟩
  have hWalk := Grammar.walk_segments steps
  rw [wellFormed_iff_walk]
  cases head with
  | root => exact Or.inr ⟨_, rfl, hWalk⟩
  | name n =>
      exact Or.inl ⟨List.cons_ne_nil _ _, .step trivial hWalk⟩
  | none =>
      refine Or.inl ⟨?_, hWalk⟩
      cases steps with
      | nil => exact absurd rfl hGiven
      | cons s steps => exact Grammar.segments_ne_nil s steps

/- So are those of an expression that is read. -/
theorem wellFormed_of_read
    {source : String}
    {e : Expression}
    (hRead : read source = .ok e) :
    WellFormed e.segments := by
  rcases read_eq_ok_iff.mp hRead with ⟨ss, hSegments, rfl⟩
  exact wellFormed_of_segmentsOf hSegments

/- An absolute expression that is read has no root but the first. -/
theorem rooted_of_read
    {source : String}
    {e : Expression}
    (hRead : read source = .ok e)
    (hAbsolute : e.isAbsolute = true) :
    e.Rooted := by
  have hHead : e.segments.head? = some .root :=
    of_decide_eq_true hAbsolute
  rcases wellFormed_iff_walk.mp (wellFormed_of_read hRead) with
    ⟨_, hWalk⟩ | ⟨more, hSegments, hWalk⟩
  · exact absurd (List.mem_of_mem_head? hHead) hWalk.root_not_mem
  · exact ⟨more, hSegments, hWalk.root_not_mem⟩

------------------------------------------------------------
-- Segments That Are Written
------------------------------------------------------------

theorem write_bare
    {name : String}
    (hBare : Segment.isBareName name.toList = true)
    (descended : Bool) :
    (Segment.field name).write descended =
      if descended then name.toList else '.' :: name.toList := by
  simp [Segment.write, hBare]

theorem write_quoted
    {name : String}
    (hQuoted : ¬ Segment.isBareName name.toList = true)
    (descended : Bool) :
    (Segment.field name).write descended =
      Path.quotedName name.toList := by
  simp [Segment.write, hQuoted]

/- A written step is read as its segment. -/
theorem readsAs_write (hStep : s.IsStep) :
    ReadsAs (s.write false) [s] := by
  cases s with
  | root => cases hStep
  | descent => cases hStep
  | everyItem => exact readsAs_bracket fun _ => rfl
  | everyField => exact readsAs_star
  | index i => exact readsAs_bracket (bracket_write hStep)
  | field name =>
      by_cases hBare : Segment.isBareName name.toList = true
      · have hDotted := readsAs_dotted hBare
        rw [String.ofList_toList] at hDotted
        rw [write_bare hBare]
        exact hDotted
      · have hQuoted := bracket_quoted name.toList
        rw [String.ofList_toList] at hQuoted
        rw [write_quoted hBare]
        exact readsAs_bracket hQuoted

/- A step that is written behind two dots is read there. -/
theorem afterDescent_write
    (hStep : s.IsStep)
    (hEnds : Ends Segment.isNameChar rest) :
    afterDescent (s.write true ++ rest) = .ok (s, rest) := by
  cases s with
  | root => cases hStep
  | descent => cases hStep
  | everyItem => rfl
  | everyField => rfl
  | index i => exact bracket_write hStep rest
  | field name =>
      by_cases hBare : Segment.isBareName name.toList = true
      · have hName := afterDescent_bare hBare hEnds
        rw [String.ofList_toList] at hName
        rw [write_bare hBare]
        exact hName
      · have hQuoted := bracket_quoted name.toList rest
        rw [String.ofList_toList] at hQuoted
        rw [write_quoted hBare]
        exact hQuoted

/- Written segments of steps are read to their end. -/
theorem continues_writeFrom (hWalk : Walk ss) :
    Continues (Segment.writeFrom false ss) ss := by
  induction hWalk with
  | nil => exact continues_nil
  | @step s ss hStep _ ih =>
      have hOther := (ne_of_isStep hStep).1
      simpa [Segment.writeFrom, hOther] using
        ih.cons (readsAs_write hStep)
  | @descent s ss hStep _ ih =>
      have hOther := (ne_of_isStep hStep).1
      have hDescent := readsAs_descent fun _ hEnds =>
        afterDescent_write hStep hEnds
      simpa [Segment.writeFrom, Segment.write, hOther] using
        ih.cons hDescent

theorem segmentsOf_writeAll (hForm : WellFormed ss) :
    segmentsOf (Segment.writeAll ss) = .ok ss := by
  unfold Segment.writeAll
  rcases wellFormed_iff_walk.mp hForm with
    ⟨hGiven, hWalk⟩ | ⟨more, rfl, hWalk⟩
  · exact segmentsOf_steps (continues_writeFrom hWalk) hGiven
  · exact segmentsOf_root (continues_writeFrom hWalk)

------------------------------------------------------------
-- Reading Back
------------------------------------------------------------

/-
  Reading and writing are inverse.  An expression that is read
  from some text has well-formed segments, and an expression
  with well-formed segments is read back from its canonical
  text, which is the text of the expression made of them.
-/
theorem read_canonical_exact (e : Expression) :
    (∀ source, read source = .ok e → WellFormed e.segments) ∧
    (WellFormed e.segments →
      read e.canonical = .ok ⟨e.canonical, e.segments⟩) ∧
    (ofSegments e.segments).source = e.canonical := by
  refine ⟨fun source => wellFormed_of_read, ?_, rfl⟩
  intro hForm
  exact read_ofList (segmentsOf_writeAll hForm)

/-
  Two spellings of the same segments.  The canonical text has
  the name behind the descent in brackets, since it is not a
  bare one, and the index without its leading zeros.
-/
theorem read_canonical_exact_quoted :
    let source := "$..[\"it's\"]['*'].*[007]..é[*]"
    let text := "$..['it\\'s']['*'].*[7]..é[*]"
    let e : Expression := ⟨source,
      [.root, .descent, .field "it's", .field "*", .everyField,
        .index 7, .descent, .field "é", .everyItem]⟩
    read source = .ok e ∧ WellFormed e.segments ∧
    e.canonical = text ∧
    read text = .ok ⟨text, e.segments⟩ ∧
    (ofSegments e.segments).source = text := by
  intro source text e
  have hRead : read source = .ok e :=
    eq_ok_of_toOption (by decide +kernel)
  have hText : e.canonical = text := by decide +kernel
  have hExact := read_canonical_exact e
  rw [hText] at hExact
  have hForm := hExact.1 source hRead
  exact ⟨hRead, hForm, hText, hExact.2.1 hForm, hExact.2.2⟩

end Expression

end ManifestRecipes
