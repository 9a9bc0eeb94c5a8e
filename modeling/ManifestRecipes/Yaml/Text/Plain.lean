import ManifestRecipes.Yaml.Text.Gap

/-
  Unquoted scalars.

  An unquoted scalar ends at a value indicator, at a comment,
  at a document marker, at a less indented line and, inside
  flow collections, at a flow indicator.

  Key definitions include:
    * `Yaml.Plain.word`
    * `Yaml.Plain.read`
-/

namespace ManifestRecipes

namespace Yaml

namespace Plain

/- A colon in a flow collection runs into these characters. -/
def stopsColon : List Char → Bool
  | c :: _ => isFlowIndicator c || c = '?'
  | [] => false

/- The characters up to the end of a word. -/
def word (flow : Bool) : List Char → Except Fault (List Char)
  | [] => .ok []
  | c :: cs =>
      if isBlank c || isBreak c then .ok []
      else if c = ':' && flow && stopsColon cs then
        .error .flowColon
      else if c = ':' && atGap cs then .ok []
      else if flow && isFlowIndicator c then .ok []
      else do
        let w ← word flow cs
        .ok (c :: w)

/- What was read of a scalar, and whether its last line has ended. -/
structure Result where
  text : List Char
  ended : Bool
  next : Position
deriving DecidableEq, Repr

/- Read the words and gaps from a position on. -/
def readFrom
    (flow : Bool)
    (indent : Nat) :
    Nat → List Char → Gap → Position → Except Fault Result
  | 0, text, gap, p => .ok ⟨text, gap.broken, p⟩
  | fuel + 1, text, gap, p =>
      if p.atDocumentMarker || p.rest.head? = some '#' then
        .ok ⟨text, gap.broken, p⟩
      else do
        let w ← word flow p.rest
        if w.isEmpty then .ok ⟨text, gap.broken, p⟩
        else do
          let text := text ++ gap.text ++ w
          let (gap, q) ← Gap.empty.read indent (p.move w.length)
          if gap = Gap.empty then .ok ⟨text, false, q⟩
          else if !flow && q.column < indent then
            .ok ⟨text, gap.broken, q⟩
          else readFrom flow indent fuel text gap q

/-
  Read an unquoted scalar whose lines are indented by at
  least `indent` columns.
-/
def read
    (flow : Bool)
    (indent : Nat)
    (p : Position) : Except Fault Result :=
  readFrom flow indent (p.rest.length + 1) [] Gap.empty p

end Plain

end Yaml

end ManifestRecipes
