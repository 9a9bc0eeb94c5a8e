import ManifestRecipes.Binary64
import ManifestRecipes.Text.Digits

/-
  JSON values and their text.

  Objects keep the order of their members.  Text is written
  either on one line or with one member or item to a line.

  Key definitions include:
    * `Json`
    * `Json.quote`
    * `Json.compact`
    * `Json.pretty`
-/

namespace ManifestRecipes

/- A JSON value. -/
inductive Json where
  | null
  | bool (b : Bool)
  | int (i : Int)
  | float (f : Binary64)
  | string (s : String)
  | array (items : List Json)
  | object (members : List (String × Json))

namespace Json

------------------------------------------------------------
-- Strings
------------------------------------------------------------

def byNumber (c : Char) : List Char :=
  let digits := Nat.toDigits 16 c.toNat
  '\\' :: 'u' ::
    (List.replicate (4 - digits.length) '0' ++ digits)

/- The written form of a character. -/
def escape (c : Char) : List Char :=
  if c = '"' || c = '\\' then ['\\', c]
  else if c = '\n' then ['\\', 'n']
  else if c = '\r' then ['\\', 'r']
  else if c = '\t' then ['\\', 't']
  else if c.toNat = 0x08 then ['\\', 'b']
  else if c.toNat = 0x0C then ['\\', 'f']
  else if c.toNat < 0x20 then byNumber c
  else [c]

/- A text in quotes. -/
def quote (s : String) : List Char :=
  '"' :: (s.toList.flatMap escape ++ ['"'])

------------------------------------------------------------
-- Values
------------------------------------------------------------

/- The text of a value that holds no others; numbers have a layout of their own. -/
def leaf (number : Binary64 → String) : Json → List Char
  | .null => "null".toList
  | .bool true => "true".toList
  | .bool false => "false".toList
  | .int i => Digits.writeInt i
  | .float f => (number f).toList
  | .string s => quote s
  | .array _ => ['[', ']']
  | .object _ => ['\x7b', '\x7d']

def commas (texts : List (List Char)) : List Char :=
  (texts.intersperse [',']).flatten

mutual

/- A value on one line. -/
def compactWith (number : Binary64 → String) : Json → List Char
  | .array xs => '[' :: (commas (compactItems number xs) ++ [']'])
  | .object ms =>
      '\x7b' :: (commas (compactMembers number ms) ++ ['\x7d'])
  | j => leaf number j

def compactItems
    (number : Binary64 → String) : List Json → List (List Char)
  | [] => []
  | x :: xs => compactWith number x :: compactItems number xs

/- Members on one line. -/
def compactMembers
    (number : Binary64 → String) :
    List (String × Json) → List (List Char)
  | [] => []
  | (k, v) :: ms =>
      (quote k ++ ':' :: compactWith number v) ::
        compactMembers number ms

end

/- A line break followed by an indentation of two columns a level. -/
def newLine (level : Nat) : List Char :=
  '\n' :: List.replicate (2 * level) ' '

/- Texts on lines of their own, one level below the given one. -/
def block
    (level : Nat)
    (opening closing : Char)
    (texts : List (List Char)) : List Char :=
  opening ::
    (commas (texts.map (newLine (level + 1) ++ ·)) ++
      newLine level ++ [closing])

mutual

/- A value on several lines. -/
def prettyWith
    (number : Binary64 → String)
    (level : Nat) : Json → List Char
  | .array (x :: xs) =>
      block level '[' ']' (prettyItems number level (x :: xs))
  | .object (m :: ms) =>
      block level '\x7b' '\x7d'
        (prettyMembers number level (m :: ms))
  | j => leaf number j

/- Items of an array at a level. -/
def prettyItems
    (number : Binary64 → String)
    (level : Nat) : List Json → List (List Char)
  | [] => []
  | x :: xs =>
      prettyWith number (level + 1) x ::
        prettyItems number level xs

/- Members of an object at a level. -/
def prettyMembers
    (number : Binary64 → String)
    (level : Nat) : List (String × Json) → List (List Char)
  | [] => []
  | (k, v) :: ms =>
      (quote k ++ ':' :: ' ' ::
        prettyWith number (level + 1) v) ::
        prettyMembers number level ms

end

end Json

end ManifestRecipes
