import ManifestRecipes.Unicode.Word

/-
  Patterns for texts.

  A pattern stands for stretches of a text.  What it stands
  for may depend on where in the text the stretch lies, since
  an assertion looks at the characters on both sides.

  Key definitions include:
    * `Assertion`
    * `Pattern`
    * `Assertion.holds`
    * `Pattern.reach`
    * `Pattern.occursIn`
-/

namespace ManifestRecipes

------------------------------------------------------------
-- Patterns
------------------------------------------------------------

/- What an assertion asks of a word at a place. -/
inductive WordPlace where
  /- A word begins or ends. -/
  | edge
  /- No word begins or ends. -/
  | inner
  /- A word begins. -/
  | start
  /- A word ends. -/
  | finish
  /- No word character is on the left. -/
  | openLeft
  /- No word character is on the right. -/
  | openRight
deriving DecidableEq, Repr

/- Conditions on a place in a text. -/
inductive Assertion where
  /- The beginning of the text. -/
  | textStart
  /- The end of the text. -/
  | textEnd
  /- The beginning of a line; a line may also end in a carriage return. -/
  | lineStart (returns : Bool)
  /- The end of a line; a line may also end in a carriage return. -/
  | lineEnd (returns : Bool)
  /- A place in or between words of given characters. -/
  | word (characters : Unicode.CodeSet) (place : WordPlace)

/- Patterns. -/
inductive Pattern where
  /- The empty stretch. -/
  | empty
  /- A character of a set. -/
  | oneOf (set : Unicode.CodeSet)
  /- The empty stretch at a place where a condition holds. -/
  | assertion (a : Assertion)
  /- One stretch after another. -/
  | sequence (p q : Pattern)
  /- Either of two stretches. -/
  | choice (p q : Pattern)
  /- So many stretches one after another, without an upper limit if none is given. -/
  | repeated (p : Pattern) (least : Nat) (most? : Option Nat)

------------------------------------------------------------
-- Assertions
------------------------------------------------------------

/- A character is next to a place, if there is one at all. -/
def Assertion.beside
    (set : Unicode.CodeSet)
    (c? : Option Char) : Bool :=
  c?.any fun c => set.contains c.toNat

/- A condition on a word holds between two characters. -/
def WordPlace.holds (before after : Bool) : WordPlace → Bool
  | .edge => before != after
  | .inner => before = after
  | .start => !before && after
  | .finish => before && !after
  | .openLeft => !before
  | .openRight => !after

/- An assertion holds between two characters of a text. -/
def Assertion.holds
    (before? after? : Option Char) : Assertion → Bool
  | .textStart => before?.isNone
  | .textEnd => after?.isNone
  | .lineStart false => before?.all (· = '\n')
  | .lineStart true =>
      before?.all fun c =>
        c = '\n' || (c = '\r' && after? ≠ some '\n')
  | .lineEnd false => after?.all (· = '\n')
  | .lineEnd true =>
      after?.all fun c =>
        c = '\r' || (c = '\n' && before? ≠ some '\r')
  | .word set place =>
      place.holds (beside set before?) (beside set after?)

------------------------------------------------------------
-- Matching
------------------------------------------------------------

namespace Pattern

/-
  The places of a text that pass a test on the characters
  before and after them, as the bits of a number.
-/
def places (test : Option Char → Option Char → Bool) :
    Option Char → List Char → Nat
  | before?, [] => (test before? none).toNat
  | before?, c :: cs =>
      2 * places test (some c) cs + (test before? (some c)).toNat

/- Take steps until nothing changes or the count is reached. -/
def iterate (step : Nat → Nat) : Nat → Nat → Nat
  | 0, s => s
  | n + 1, s =>
      let t := step s
      if t = s then s else iterate step n t

/- Keep the places that steps lead to, until nothing is new or the count is reached. -/
def accumulate (step : Nat → Nat) (n s : Nat) : Nat :=
  iterate (fun s => s ||| step s) n s

/-
  The places where stretches of a text end that begin at
  given places.  Without an upper limit, no more repetitions
  are needed than the text has places.
-/
def reach (text : List Char) : Pattern → Nat → Nat
  | .empty, s => s
  | .oneOf set, s =>
      2 * (s &&& places (fun _ c? => Assertion.beside set c?) none text)
  | .assertion a, s => s &&& places (a.holds · ·) none text
  | .sequence p q, s => q.reach text (p.reach text s)
  | .choice p q, s => p.reach text s ||| q.reach text s
  | .repeated p least most?, s =>
      let most := (most?.map (· - least)).getD (text.length + 1)
      accumulate (p.reach text) most (iterate (p.reach text) least s)

/- Some stretch of a text matches a pattern. -/
def occursIn (p : Pattern) (text : List Char) : Bool :=
  p.reach text (places (fun _ _ => true) none text) ≠ 0

end Pattern

end ManifestRecipes
