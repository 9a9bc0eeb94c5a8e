import ManifestRecipes.Pattern.Form.Reading
import ManifestRecipes.Pattern.Meaning

/-
  Reading patterns.

  A pattern is refused if it is not well formed, too deeply
  nested or too large.  How large it is is only approximated.

  Key definitions include:
    * `Pattern.weight`
    * `Pattern.read?`
    * `Pattern.readAnchored?`
-/

namespace ManifestRecipes

namespace Pattern

------------------------------------------------------------
-- Size
------------------------------------------------------------

/- The bytes of one state of a matcher. -/
def stateWeight : Nat :=
  32

/-
  About the bytes that it takes to recognize a set: a state for
  each byte of a single character, a little for each run of
  ASCII characters, and more for the encoded forms of others.
-/
def setWeight (s : Unicode.CodeSet) : Nat :=
  let edges := s.boundaries
  let runs := (edges.length + 1) / 2
  if edges = [edges.headD 0, edges.headD 0 + 1] then
    stateWeight * (Char.ofNat (edges.headD 0)).utf8Size
  else if edges.length % 2 = 0 && edges.all (· ≤ 128) then
    2 * stateWeight + 8 * runs
  else 8 * stateWeight + 2 * stateWeight * (runs + 1)

/- No stretch matches, as when there are no more alternatives. -/
def isNever : Pattern → Bool
  | .oneOf .empty => true
  | _ => false

/- All stretches that match are empty. -/
def takesNothing : Pattern → Bool
  | .empty => true
  | .oneOf s => isNever (.oneOf s)
  | .assertion _ => true
  | .sequence p q => p.takesNothing && q.takesNothing
  | .choice p q => p.takesNothing && q.takesNothing
  | .repeated p _ most? => p.takesNothing || most? = some 0

/-
  About the bytes that it takes to recognize a pattern.  This is
  an approximation, since a matcher may join states that are
  counted apart here.  What takes nothing is not taken twice.
-/
def weight : Pattern → Nat
  | .empty => 0
  | .oneOf s => if isNever (.oneOf s) then 0 else setWeight s
  | .assertion _ => stateWeight
  | .sequence p q => p.weight + q.weight
  | .choice p q =>
      p.weight + q.weight + if q.isNever then 0 else stateWeight
  | .repeated p least most? =>
      let most := most?.getD (max 1 least)
      let skips := if most? = none then 1 else most - least
      if p.takesNothing then p.weight + stateWeight
      else p.weight * most + stateWeight * skips

/- The bytes that a pattern may take. -/
def weightLimit : Nat :=
  10 * Nat.pow 2 20

/- How deeply a pattern may be nested. -/
def depthLimit : Nat :=
  250

------------------------------------------------------------
-- Reading
------------------------------------------------------------

def ofChars? (cs : List Char) : Option Pattern := do
  let f ← Form.read? cs
  let (p, _) ← f.meaning .initial
  if f.depth ≤ depthLimit && p.weight ≤ weightLimit then some p
  else none

/- The pattern of a text. -/
def read? (text : String) : Option Pattern :=
  ofChars? text.toList

/- A written pattern between the anchors of the whole text. -/
def anchored (cs : List Char) : List Char :=
  ['^', '(', '?', ':'] ++ cs ++ [')', '$']

/- The pattern of a text, anchored on both sides. -/
def readAnchored? (text : String) : Option Pattern :=
  ofChars? (anchored text.toList)

end Pattern

end ManifestRecipes
