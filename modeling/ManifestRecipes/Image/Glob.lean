/-
  Globs: patterns with stars and question marks.

  A question mark stands for one character and a star for any
  run of them.  A star takes as little as it can, and what it
  takes is settled once the next star is reached.  Where a
  star of the pattern meets a star of the text, it stands for
  that star alone.

  Key definitions include:
    * `Glob.attempt`
    * `Glob.scan`
    * `Glob.accepts`
-/

namespace ManifestRecipes

namespace Glob

/-
  Try the places of a text from left to right until an
  attempt is decided.
-/
def scan (decide? : List Char → Option Bool) : List Char → Bool
  | [] => (decide? []).getD false
  | c :: t =>
      match decide? (c :: t) with
      | some b => b
      | none => scan decide? t

/-
  Match a pattern against a text from its beginning.  Nothing
  is decided if they differ before the first star.
-/
def attempt : List Char → List Char → Option Bool
  | p, [] => some (p.all (· = '*'))
  | [], _ :: _ => none
  | d :: p, c :: t =>
      if d = '?' || d = c then attempt p t
      else if d = '*' then some (scan (attempt p) (c :: t))
      else none

/- A pattern accepts a text. -/
def accepts (pattern text : List Char) : Bool :=
  (attempt pattern text).getD false

end Glob

end ManifestRecipes
