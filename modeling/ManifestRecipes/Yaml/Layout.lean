import ManifestRecipes.Yaml.Layout.Scalar

/-
  The block layout of values.

  Each entry of a mapping and each item of a sequence starts
  a line.  Collections are indented by two columns, except
  that a sequence under a key stands at the column of the
  key.  Keys of one short line stand before a colon; all
  others behind a question mark.

  Key definitions include:
    * `Yaml.Value.isSimpleKey`
    * `Yaml.Value.write`
    * `Yaml.Value.text`
-/

namespace ManifestRecipes

namespace Yaml

namespace Value

open Form (spaces)

------------------------------------------------------------
-- Keys
------------------------------------------------------------

def tagText (name : String) : List Char :=
  let hexByte := fun (b : UInt8) => '%' :: Form.hex 2 b.toNat
  '!' :: name.toList.flatMap fun c =>
    if isWord c || c ∈ ";/?:@&=+$,.~*'()[]".toList then [c]
    else (String.singleton c).toUTF8.toList.flatMap hexByte

/- The length of a key in bytes, if it stands on one line. -/
def keyLength? : Value → Option Nat
  | .tagged name v =>
      (keyLength? v).map (· + name.utf8ByteSize + 1)
  | .sequence xs => if xs.isEmpty then some 0 else none
  | .mapping es => if es.isEmpty then some 0 else none
  | .string s =>
      if s.toList.any isBreak then none else some s.utf8ByteSize
  | v => some (v.scalarText 0).length

/- Keys that stand on one line and are at most 128 bytes long. -/
def isSimpleKey (k : Value) : Bool :=
  k.keyLength?.any (· ≤ 128)

def keyText : Value → List Char
  | .tagged name v => tagText name ++ ' ' :: keyText v
  | .sequence _ => ['[', ']']
  | .mapping _ => ['\x7b', '\x7d']
  | v => v.scalarText 0

------------------------------------------------------------
-- Lines
------------------------------------------------------------

/- A text that ends its line. -/
def endLine (cs : List Char) : List Char :=
  if cs.getLast?.any isBreak then cs else cs ++ ['\n']

/- Texts below one another at a column, the first one being there. -/
def stack (column : Nat) (texts : List (List Char)) : List Char :=
  (texts.intersperse (spaces column)).flatten

def spacedTag (name : String) : List Char :=
  ' ' :: tagText name

mutual

/-
  A value behind an indicator that stands at a column.  `tag`
  is what precedes the value on the line; behind a tag the
  items of a sequence in a mapping stay at the column.
-/
def behindIndicator
    (column : Nat)
    (inMapping : Bool)
    (tag : List Char) : Value → List Char
  | .tagged name v =>
      behindIndicator column inMapping (spacedTag name) v
  | .sequence [] => tag ++ [' ', '[', ']', '\n']
  | .mapping [] => tag ++ [' ', '\x7b', '\x7d', '\n']
  | .sequence (x :: xs) =>
      if tag.isEmpty then
        ' ' :: stack (column + 2)
          (itemTexts (column + 2) (x :: xs))
      else
        let inner := if inMapping then column else column + 2
        tag ++ '\n' :: (spaces inner ++
          stack inner (itemTexts inner (x :: xs)))
  | .mapping (e :: es) =>
      let inner := column + 2
      let body := stack inner (entryTexts inner (e :: es))
      if tag.isEmpty then ' ' :: body
      else tag ++ '\n' :: (spaces inner ++ body)
  | v => tag ++ ' ' :: endLine (v.scalarText (column + 2))

/- A value behind the colon of a key that stands at a column. -/
def behindKey
    (column : Nat)
    (tag : List Char) : Value → List Char
  | .tagged name v => behindKey column (spacedTag name) v
  | .sequence [] => tag ++ [' ', '[', ']', '\n']
  | .mapping [] => tag ++ [' ', '\x7b', '\x7d', '\n']
  | .sequence (x :: xs) =>
      tag ++ '\n' :: (spaces column ++
        stack column (itemTexts column (x :: xs)))
  | .mapping (e :: es) =>
      let inner := column + 2
      tag ++ '\n' :: (spaces inner ++
        stack inner (entryTexts inner (e :: es)))
  | v => tag ++ ' ' :: endLine (v.scalarText (column + 2))

/- The items of a sequence at a column. -/
def itemTexts (column : Nat) : List Value → List (List Char)
  | [] => []
  | x :: xs =>
      ('-' :: behindIndicator column false [] x) ::
        itemTexts column xs

/- The entries of a mapping at a column. -/
def entryTexts
    (column : Nat) : List (Value × Value) → List (List Char)
  | [] => []
  | (k, v) :: es =>
      (if isSimpleKey k then
        keyText k ++ ':' :: behindKey column [] v
      else
        '?' :: behindIndicator column true [] k ++
          (spaces column ++
            ':' :: behindIndicator column true [] v)) ::
        entryTexts column es

end

/- A document. -/
def write : Value → List Char
  | .sequence (x :: xs) => stack 0 (itemTexts 0 (x :: xs))
  | .mapping (e :: es) => stack 0 (entryTexts 0 (e :: es))
  | v => (behindIndicator 0 false [] v).drop 1

/- A document as text. -/
def text (v : Value) : String :=
  String.ofList v.write

end Value

end Yaml

end ManifestRecipes
