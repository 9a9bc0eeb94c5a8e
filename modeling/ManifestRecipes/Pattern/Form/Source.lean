import ManifestRecipes.Pattern.Form
import ManifestRecipes.Unicode.Letter

/-
  The rest of a written pattern.

  A reader takes characters from the front of what is left.
  In a spaced pattern blanks are skipped between most of
  them, and a number sign begins a comment.

  Key definitions include:
    * `Source`
    * `Reader`
    * `Reader.next`
    * `Reader.collect`
-/

namespace ManifestRecipes

namespace Pattern

/- What is left of a pattern, and what was found before that matters later. -/
structure Source where
  rest : List Char
  spaced : Bool
  names : List String
deriving DecidableEq, Repr

/- Readers; they fail without a reason. -/
abbrev Reader :=
  StateT Source Option

/- Skip blanks and comments. -/
def skipBlanks : (inComment : Bool) → List Char → List Char
  | _, [] => []
  | true, c :: cs => skipBlanks (c ≠ '\n') cs
  | false, c :: cs =>
      if Unicode.isBlank c then skipBlanks false cs
      else if c = '#' then skipBlanks true cs
      else c :: cs

namespace Reader

/- Fail unless a condition holds. -/
def check (b : Bool) : Reader Unit :=
  if b then pure () else failure

/- The next character, if any. -/
def peek? : Reader (Option Char) := do
  return (← get).rest.head?

def peek : Reader Char := do
  match ← peek? with
  | some c => return c
  | none => failure

/- Leave out characters. -/
def skip (n : Nat) : Reader Unit :=
  modify fun s => { s with rest := s.rest.drop n }

/- Leave out blanks and comments if the pattern is spaced. -/
def blanks : Reader Unit :=
  modify fun s =>
    if s.spaced then { s with rest := skipBlanks false s.rest } else s

/- Leave out a character and the blanks behind it. -/
def next : Reader Unit := do
  skip 1
  blanks

/- Leave out a character and the blanks behind it; more must follow. -/
def proceed : Reader Unit := do
  next
  discard peek

/- Leave out a given character. -/
def expect (c : Char) : Reader Unit := do
  check ((← peek?) = some c)
  skip 1

/- Read at most so many characters as long as they pass a test. -/
def collectUpTo (test : Char → Bool) : Nat → Reader (List Char)
  | 0 => return []
  | n + 1 => do
      match ← peek? with
      | some c =>
          if test c then do
            next
            return c :: (← collectUpTo test n)
          else return []
      | none => return []

/- Read characters as long as they pass a test. -/
def collect (test : Char → Bool) : Reader (List Char) := do
  collectUpTo test (← get).rest.length

end Reader

end Pattern

end ManifestRecipes
