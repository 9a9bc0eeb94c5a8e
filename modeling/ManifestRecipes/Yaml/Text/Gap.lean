import ManifestRecipes.Yaml.Fault
import ManifestRecipes.Yaml.Position

/-
  The gaps between the words of a flowing scalar.

  Blanks on one line stand for themselves.  Across lines the
  blanks fall away, a single break becomes a space, and
  further breaks stand for themselves.

  Key definitions include:
    * `Yaml.Gap`
    * `Yaml.Gap.text`
    * `Yaml.Gap.read`
-/

namespace ManifestRecipes

namespace Yaml

/- What lies between two words. -/
structure Gap where
  /- The blanks before the first break. -/
  blanks : List Char
  /- A line ended in the gap. -/
  broken : Bool
  /- The first break. -/
  first : List Char
  /- The breaks after it. -/
  further : List Char
deriving DecidableEq, Repr

namespace Gap

/- Nothing between two words. -/
def empty : Gap :=
  ⟨[], false, [], []⟩

/- A line end that was taken away by a backslash. -/
def joined : Gap :=
  ⟨[], true, [], []⟩

/- Add a blank; behind a break it is indentation. -/
def addBlank (g : Gap) (c : Char) : Gap :=
  if g.broken then g else { g with blanks := g.blanks ++ [c] }

def addBreak (g : Gap) (text : List Char) : Gap :=
  if g.broken then { g with further := g.further ++ text }
  else ⟨[], true, text, []⟩

/- The text that a gap stands for. -/
def text (g : Gap) : List Char :=
  if !g.broken then g.blanks
  else if g.first = ['\n'] then
    if g.further.isEmpty then [' '] else g.further
  else g.first ++ g.further

/-
  Extend a gap to the next word.  Tabs may not stand in the
  indentation, which is `indent` columns wide; `fuel` bounds
  the characters.
-/
def readFrom
    (indent : Nat) :
    Nat → Gap → Position → Except Fault (Gap × Position)
  | 0, g, p => .ok (g, p)
  | fuel + 1, g, p =>
      match p.rest with
      | [] => .ok (g, p)
      | c :: _ =>
          if isBlank c then
            if g.broken && p.column < indent && c = '\t' then
              .error .tab
            else
              readFrom indent fuel (g.addBlank c) (p.move 1)
          else if isBreak c then
            readFrom indent fuel (g.addBreak p.breakText)
              p.nextLine
          else .ok (g, p)

/- Extend a gap to the next word or the end of the text. -/
def read
    (indent : Nat)
    (g : Gap)
    (p : Position) : Except Fault (Gap × Position) :=
  readFrom indent p.rest.length g p

end Gap

end Yaml

end ManifestRecipes
