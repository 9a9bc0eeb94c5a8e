import ManifestRecipes.Pattern.Form.Source
import ManifestRecipes.Text.Digits

/-
  Escapes in written patterns.

  A backslash makes a punctuation mark literal and gives
  letters a meaning of their own.

  Key definitions include:
    * `Pattern.Escape`
    * `Pattern.escape`
-/

namespace ManifestRecipes

namespace Pattern

open Reader

/- What a backslash can introduce. -/
inductive Escape where
  | letter (l : Letter)
  | classOf (e : ClassEscape)
  | anchor (a : Anchor)
deriving DecidableEq, Repr

------------------------------------------------------------
-- Characters by Number
------------------------------------------------------------

/- The character of a number in hexadecimal digits. -/
def numbered? (digits : List Char) : Option Char := do
  let n ← Digits.readNat? 16 digits
  if n.isValidChar then some (Char.ofNat n) else none

/- Read so many hexadecimal digits. -/
def hexDigits : Nat → Reader (List Char)
  | 0 => return []
  | n + 1 => do
      let c ← peek
      check (Digits.isHexDigit c)
      next
      return c :: (← hexDigits n)

/- Read a number of a given length, or one in braces. -/
def numbered (length : Nat) : Reader Letter := do
  proceed
  if (← peek) = '\x7b' then do
    next
    let digits ← collect Digits.isHexDigit
    check ((← peek) = '\x7d')
    next
    return ⟨← numbered? digits, false⟩
  else do
    let digits ← hexDigits length
    return ⟨← numbered? digits, length = 2⟩

------------------------------------------------------------
-- Classes by Name
------------------------------------------------------------

/- Split a text at the first place of a separator. -/
def cutAt? (separator : List Char) :
    List Char → Option (List Char × List Char)
  | [] => none
  | c :: cs =>
      if separator.isPrefixOf (c :: cs) then
        some ([], (c :: cs).drop separator.length)
      else (cutAt? separator cs).map fun (a, b) => (c :: a, b)

/-
  The query written in braces.  Any separator between a
  property and its value asks for equality.
-/
def queryOf (cs : List Char) : Unicode.Query :=
  match [['!', '='], [':'], ['=']].findSome? (cutAt? · cs) with
  | some (property, value) =>
      .valued (String.ofList property) (String.ofList value)
  | none => .named (String.ofList cs)

/- Read a query: one letter, or a text in braces. -/
def query : Reader Unicode.Query := do
  proceed
  let c ← peek
  if c = '\x7b' then do
    next
    let cs ← collect (· ≠ '\x7d')
    expect '\x7d'
    return queryOf cs
  else do
    check (c ≠ '\\')
    skip 1
    return .named c.toString

/- The class of a shorthand; capitals negate it. -/
def shorthand? (c : Char) : Option ClassEscape :=
  match c with
  | 'd' => some (.shorthand .digit false)
  | 'D' => some (.shorthand .digit true)
  | 's' => some (.shorthand .blank false)
  | 'S' => some (.shorthand .blank true)
  | 'w' => some (.shorthand .word false)
  | 'W' => some (.shorthand .word true)
  | _ => none

------------------------------------------------------------
-- Anchors
------------------------------------------------------------

/- The characters of the names of word edges. -/
def isEdgeChar (c : Char) : Bool :=
  c.isAlpha || c = '-'

/- The word edges that have a name. -/
def namedEdge? (name : String) : Option Anchor :=
  match name with
  | "start" => some .start
  | "end" => some .finish
  | "start-half" => some .openLeft
  | "end-half" => some .openRight
  | _ => none

/- Read the name of a word edge in braces, unless a count stands there. -/
def edge : Reader Anchor := do
  if (← peek?) = some '\x7b' then do
    let before ← get
    proceed
    if isEdgeChar (← peek) then do
      let name ← collect isEdgeChar
      expect '\x7d'
      namedEdge? (String.ofList name)
    else do
      set before
      return .edge
  else return .edge

/- The anchors of a letter or a bracket. -/
def anchor? (c : Char) : Option Anchor :=
  match c with
  | 'A' => some .textStart
  | 'z' => some .textEnd
  | 'B' => some .inner
  | '<' => some .start
  | '>' => some .finish
  | _ => none

------------------------------------------------------------
-- Escapes
------------------------------------------------------------

/- The control characters that have a letter. -/
def control? (c : Char) : Option Char :=
  match c with
  | 'a' => some '\x07'
  | 'f' => some '\x0c'
  | 't' => some '\t'
  | 'n' => some '\n'
  | 'r' => some '\r'
  | 'v' => some '\x0b'
  | _ => none

/- Characters that a backslash makes literal. -/
def isMark (c : Char) : Bool :=
  c.toNat < 128 && !c.isAlphanum && c ≠ '<' && c ≠ '>'

/- The meaning of an escape of one letter. -/
def single? (c : Char) : Option Escape :=
  if isMark c then some (.letter ⟨c, false⟩)
  else
    match control? c with
    | some d => some (.letter ⟨d, false⟩)
    | none => (anchor? c).map .anchor

/- Read an escape. -/
def escape : Reader Escape := do
  skip 1
  let c ← peek
  if c = 'x' then return .letter (← numbered 2)
  else if c = 'u' then return .letter (← numbered 4)
  else if c = 'U' then return .letter (← numbered 8)
  else if c = 'p' || c = 'P' then
    return .classOf (.query (← query) (c = 'P'))
  else do
    skip 1
    if c = 'b' then return .anchor (← edge)
    else
      match shorthand? c with
      | some e => return .classOf e
      | none => single? c

end Pattern

end ManifestRecipes
