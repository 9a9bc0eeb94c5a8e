import ManifestRecipes.Proofs.Text
import ManifestRecipes.Unicode.Letter
import ManifestRecipes.Expression

/-
  The grammar of path expressions.

  A derivation tells how a text is put together: an optional
  dollar sign or bare name and then steps.  It has a text and
  it stands for segments, and its parts can be told from their
  texts.

  Key definitions include:
    * `Grammar.Bracket`
    * `Grammar.Target`
    * `Grammar.Step`
    * `Grammar.Head`
    * `Grammar.Derivation`

  Main declarations:
    * `Grammar.Bracket.eq_of_content_eq`
    * `Grammar.Target.eq_of_chars_eq`
    * `Grammar.Step.eq_of_chars_eq`
-/

namespace ManifestRecipes

namespace Expression

namespace Grammar

------------------------------------------------------------
-- Names and Indices
------------------------------------------------------------

/-
  A name without quotes: letters, numbers, underscores and
  hyphens, at least one of them.
-/
structure BareName where
  chars : List Char
  bare : Segment.isBareName chars = true

/- The digits of an index, which is a 64-bit number. -/
structure IndexDigits where
  chars : List Char
  given : chars ≠ []
  digits : ∀ c ∈ chars, Digits.isDigit c = true
  bound : Digits.value chars < Nat.pow 2 64

def BareName.segment (n : BareName) : Segment :=
  .field (String.ofList n.chars)

def IndexDigits.segment (i : IndexDigits) : Segment :=
  .index (Digits.value i.chars)

/- Names are told by their characters. -/
theorem BareName.eq_of_chars_eq
    {n m : BareName}
    (hChars : n.chars = m.chars) :
    n = m := by
  cases n
  cases m
  congr

/- So are indices. -/
theorem IndexDigits.eq_of_chars_eq
    {i j : IndexDigits}
    (hChars : i.chars = j.chars) :
    i = j := by
  cases i
  cases j
  congr

theorem BareName.exists_head (n : BareName) :
    ∃ c cs, n.chars = c :: cs ∧ Segment.isNameChar c = true := by
  have hBare := n.bare
  simp only [Segment.isBareName, Bool.and_eq_true,
    List.all_eq_true] at hBare
  cases hChars : n.chars with
  | nil => simp [hChars] at hBare
  | cons c cs =>
      exact ⟨c, cs, rfl, hBare.2 c (hChars ▸ List.mem_cons_self)⟩

theorem IndexDigits.exists_head (i : IndexDigits) :
    ∃ c cs, i.chars = c :: cs ∧ Digits.isDigit c = true := by
  rcases List.exists_cons_of_ne_nil i.given with ⟨c, cs, hChars⟩
  exact ⟨c, cs, hChars,
    i.digits c (hChars ▸ List.mem_cons_self)⟩

------------------------------------------------------------
-- Quoted Names
------------------------------------------------------------

/- The quotes of names. -/
inductive Quote where
  | single
  | double
deriving DecidableEq, Repr

def Quote.char : Quote → Char
  | .single => '\''
  | .double => '"'

theorem Quote.eq_of_char_eq
    {q q' : Quote}
    (hChar : q.char = q'.char) :
    q = q' := by
  cases q <;> cases q' <;> first | rfl | cases hChar

theorem Quote.char_ne_backslash (q : Quote) :
    q.char ≠ '\\' := by
  cases q <;> decide

/-
  A character between quotes: one that is neither the
  backslash nor the quote, or any behind a backslash.
-/
inductive QuotedChar (q : Quote) where
  | plain (c : Char) (hEscape : c ≠ '\\') (hQuote : c ≠ q.char)
  | escaped (c : Char)

namespace QuotedChar

variable {q : Quote}

def chars : QuotedChar q → List Char
  | .plain c _ _ => [c]
  | .escaped c => ['\\', c]

/- The character that is meant. -/
def value : QuotedChar q → Char
  | .plain c _ _ => c
  | .escaped c => c

/- A quoted character is told from what follows it. -/
theorem eq_of_append_eq
    {x y : QuotedChar q}
    {rest rest' : List Char}
    (hChars : x.chars ++ rest = y.chars ++ rest') :
    x = y ∧ rest = rest' := by
  cases x with
  | plain c hEscape hQuote =>
      cases y with
      | plain d _ _ =>
          rcases List.cons.inj hChars with ⟨rfl, hRest⟩
          exact ⟨rfl, hRest⟩
      | escaped d => exact absurd (List.cons.inj hChars).1 hEscape
  | escaped c =>
      cases y with
      | plain d hEscape _ =>
          exact absurd (List.cons.inj hChars).1.symm hEscape
      | escaped d =>
          rcases List.cons.inj (List.cons.inj hChars).2 with
            ⟨rfl, hRest⟩
          exact ⟨rfl, hRest⟩

/- Quoted characters are told by their text. -/
theorem eq_of_flatMap_eq
    {xs ys : List (QuotedChar q)}
    (hChars : xs.flatMap chars = ys.flatMap chars) :
    xs = ys := by
  induction xs generalizing ys with
  | nil =>
      cases ys with
      | nil => rfl
      | cons y ys => cases y <;> cases hChars
  | cons x xs ih =>
      cases ys with
      | nil => cases x <;> cases hChars
      | cons y ys =>
          rw [List.flatMap_cons, List.flatMap_cons] at hChars
          rcases eq_of_append_eq hChars with ⟨rfl, hRest⟩
          rw [ih hRest]

end QuotedChar

------------------------------------------------------------
-- Brackets
------------------------------------------------------------

/- A bracket with a star, an index or a quoted name. -/
inductive Bracket where
  | everyItem
  | index (i : IndexDigits)
  | name (q : Quote) (text : List (QuotedChar q))

namespace Bracket

/- What is written between the brackets. -/
def content : Bracket → List Char
  | .everyItem => ['*']
  | .index i => i.chars
  | .name q text =>
      q.char :: (text.flatMap QuotedChar.chars ++ [q.char])

/- A bracket as it is written. -/
def chars (b : Bracket) : List Char :=
  '[' :: (b.content ++ [']'])

/- The segment of a bracket. -/
def segment : Bracket → Segment
  | .everyItem => .everyItem
  | .index i => i.segment
  | .name _ text =>
      .field (String.ofList (text.map QuotedChar.value))

/- Brackets are told by their content. -/
theorem eq_of_content_eq
    {b b' : Bracket}
    (hContent : b.content = b'.content) :
    b = b' := by
  -- The first character tells which kind of bracket it is.
  have hStar : ∀ i : IndexDigits, i.chars ≠ ['*'] := by
    intro i hChars
    have hDigit := i.digits '*' (hChars ▸ List.mem_cons_self)
    cases hDigit
  have hQuoted : ∀ (i : IndexDigits) (q : Quote) (cs : List Char),
      i.chars ≠ q.char :: cs := by
    intro i q cs hChars
    have hDigit := i.digits q.char (hChars ▸ List.mem_cons_self)
    cases q <;> cases hDigit
  have hLone : ∀ (q : Quote) (cs : List Char),
      q.char :: cs ≠ ['*'] := by
    intro q cs hChars
    have hHead := (List.cons.inj hChars).1
    cases q <;> cases hHead
  cases b with
  | everyItem =>
      cases b' with
      | everyItem => rfl
      | index j => exact absurd hContent.symm (hStar j)
      | name q' text' => exact absurd hContent.symm (hLone q' _)
  | index i =>
      cases b' with
      | everyItem => exact absurd hContent (hStar i)
      | index j => rw [IndexDigits.eq_of_chars_eq hContent]
      | name q' text' => exact absurd hContent (hQuoted i q' _)
  | name q text =>
      cases b' with
      | everyItem => exact absurd hContent (hLone q _)
      | index j => exact absurd hContent.symm (hQuoted j q _)
      | name q' text' =>
          rcases List.cons.inj hContent with ⟨hQuote, hText⟩
          cases Quote.eq_of_char_eq hQuote
          rw [QuotedChar.eq_of_flatMap_eq
            (List.append_cancel_right hText)]

/- Brackets are told by their text. -/
theorem eq_of_chars_eq
    {b b' : Bracket}
    (hChars : b.chars = b'.chars) :
    b = b' :=
  eq_of_content_eq
    (List.append_cancel_right (List.cons.inj hChars).2)

end Bracket

------------------------------------------------------------
-- Steps
------------------------------------------------------------

/- What two dots lead to: a name, a star or a bracket. -/
inductive Target where
  | name (n : BareName)
  | everyField
  | bracket (b : Bracket)

/- A name or a star behind a dot, a target behind two, or a bracket. -/
inductive Step where
  | name (n : BareName)
  | everyField
  | descent (t : Target)
  | bracket (b : Bracket)

namespace Target

/- A target as it is written. -/
def chars : Target → List Char
  | .name n => n.chars
  | .everyField => ['*']
  | .bracket b => b.chars

/- The segment of a target. -/
def segment : Target → Segment
  | .name n => n.segment
  | .everyField => .everyField
  | .bracket b => b.segment

/- A name does not begin with punctuation. -/
theorem name_ne
    {n : BareName}
    {c : Char}
    (hMark : Segment.isNameChar c = false)
    (cs : List Char) :
    n.chars ≠ c :: cs := by
  intro hChars
  rcases n.exists_head with ⟨d, ds, hHead, hName⟩
  rw [hChars] at hHead
  rw [(List.cons.inj hHead).1, hName] at hMark
  cases hMark

/- Targets are told by their text. -/
theorem eq_of_chars_eq
    {t t' : Target}
    (hChars : t.chars = t'.chars) :
    t = t' := by
  have hStar : ∀ n : BareName, n.chars ≠ ['*'] :=
    fun n => name_ne (by decide) []
  have hBracket : ∀ (n : BareName) (b : Bracket),
      n.chars ≠ b.chars :=
    fun n b => name_ne (by decide) _
  cases t with
  | name n =>
      cases t' with
      | name m => rw [BareName.eq_of_chars_eq hChars]
      | everyField => exact absurd hChars (hStar n)
      | bracket b => exact absurd hChars (hBracket n b)
  | everyField =>
      cases t' with
      | name m => exact absurd hChars.symm (hStar m)
      | everyField => rfl
      | bracket b => cases (List.cons.inj hChars).1
  | bracket b =>
      cases t' with
      | name m => exact absurd hChars.symm (hBracket m b)
      | everyField => cases (List.cons.inj hChars).1
      | bracket b' => rw [Bracket.eq_of_chars_eq hChars]

end Target

namespace Step

/- A step as it is written. -/
def chars : Step → List Char
  | .name n => '.' :: n.chars
  | .everyField => ['.', '*']
  | .descent t => '.' :: '.' :: t.chars
  | .bracket b => b.chars

/- The segments of a step; a descent has one of its own. -/
def segments : Step → List Segment
  | .name n => [n.segment]
  | .everyField => [.everyField]
  | .descent t => [.descent, t.segment]
  | .bracket b => [b.segment]

/- Steps are told by their text. -/
theorem eq_of_chars_eq
    {s s' : Step}
    (hChars : s.chars = s'.chars) :
    s = s' := by
  have hStar : ∀ n : BareName, n.chars ≠ ['*'] :=
    fun n => Target.name_ne (by decide) []
  have hDot : ∀ (n : BareName) (t : Target),
      n.chars ≠ '.' :: t.chars :=
    fun n t => Target.name_ne (by decide) _
  cases s with
  | name n =>
      cases s' with
      | name m =>
          rw [BareName.eq_of_chars_eq (List.cons.inj hChars).2]
      | everyField => exact absurd (List.cons.inj hChars).2 (hStar n)
      | descent t => exact absurd (List.cons.inj hChars).2 (hDot n t)
      | bracket b => cases (List.cons.inj hChars).1
  | everyField =>
      cases s' with
      | name m =>
          exact absurd (List.cons.inj hChars).2.symm (hStar m)
      | everyField => rfl
      | descent t => cases (List.cons.inj (List.cons.inj hChars).2).1
      | bracket b => cases (List.cons.inj hChars).1
  | descent t =>
      cases s' with
      | name m =>
          exact absurd (List.cons.inj hChars).2.symm (hDot m t)
      | everyField =>
          cases (List.cons.inj (List.cons.inj hChars).2).1
      | descent t' =>
          rw [Target.eq_of_chars_eq
            (List.cons.inj (List.cons.inj hChars).2).2]
      | bracket b => cases (List.cons.inj hChars).1
  | bracket b =>
      cases s' with
      | name m => cases (List.cons.inj hChars).1
      | everyField => cases (List.cons.inj hChars).1
      | descent t => cases (List.cons.inj hChars).1
      | bracket b' => rw [Bracket.eq_of_chars_eq hChars]

end Step

------------------------------------------------------------
-- Derivations
------------------------------------------------------------

/- The beginning of an expression: a dollar sign, a name or nothing. -/
inductive Head where
  | none
  | root
  | name (n : BareName)

/- How the text of an expression is put together. -/
structure Derivation where
  head : Head
  steps : List Step

namespace Head

/- A beginning as it is written. -/
def chars : Head → List Char
  | .none => []
  | .root => ['$']
  | .name n => n.chars

/- The segments of a beginning. -/
def segments : Head → List Segment
  | .none => []
  | .root => [.root]
  | .name n => [n.segment]

end Head

namespace Derivation

/- The text of a derivation. -/
def chars (d : Derivation) : List Char :=
  d.head.chars ++ d.steps.flatMap Step.chars

def segments (d : Derivation) : List Segment :=
  d.head.segments ++ d.steps.flatMap Step.segments

end Derivation

end Grammar

end Expression

end ManifestRecipes
