import ManifestRecipes.Yaml.Character
import ManifestRecipes.Yaml.Value.Plain

/-
  The written forms of scalars.

  Text is written plainly where it reads back as itself, in
  single quotes where it would be read as something else, as
  a literal block where it has lines, and in double quotes
  where nothing else can hold it.

  Key definitions include:
    * `Yaml.Form`
    * `Yaml.Form.ofText`
    * `Yaml.Form.write`
    * `Yaml.Value.scalarText`
-/

namespace ManifestRecipes

namespace Yaml

/- The forms of text. -/
inductive Form where
  | plain
  | single
  | double
  | literal
deriving DecidableEq, Repr

------------------------------------------------------------
-- Shapes of Text
------------------------------------------------------------

namespace Shape

/- Neighbouring characters of two classes, in this order. -/
def hasPair (first second : Char → Bool) : List Char → Bool
  | c :: d :: cs =>
      (first c && second d) || hasPair first second (d :: cs)
  | _ => false

def isSpace (c : Char) : Bool :=
  c = ' '

/- A character that is not written as it is. -/
def hasSpecial (cs : List Char) : Bool :=
  cs.any fun c => !isPrintable c

/- A line that ends in a space. -/
def hasSpaceBreak (cs : List Char) : Bool :=
  hasPair isSpace isBreak cs

/- A line that starts with a space. -/
def hasBreakSpace (cs : List Char) : Bool :=
  hasPair isBreak isSpace cs

/- A space or a break at one of the ends. -/
def hasOpenEnd (cs : List Char) : Bool :=
  let open? := fun c => isSpace c || isBreak c
  cs.head?.any open? || cs.getLast?.any open?

/- The text begins with one character three times. -/
def startsThrice (c : Char) : List Char → Bool
  | a :: b :: d :: _ => a = c && b = c && d = c
  | _ => false

/- The beginning would be taken for an indicator. -/
def startsIndicator (cs : List Char) : Bool :=
  startsThrice '-' cs || startsThrice '.' cs ||
    match cs with
    | [] => false
    | c :: rest =>
        if c = '-' || c = '?' || c = ':' then atGap rest
        else isIndicator c

/- An indicator of a value or a comment stands inside the text. -/
def hasIndicator : List Char → Bool
  | c :: d :: cs =>
      ((isBlank c || isBreak c) && d = '#') ||
        (d = ':' && atGap cs) || hasIndicator (d :: cs)
  | _ => false

end Shape

------------------------------------------------------------
-- Choice of Form
------------------------------------------------------------

namespace Form

open Shape

/- Text that can stand without quotes. -/
def fitsPlain (cs : List Char) : Bool :=
  !(cs.any isBreak || hasOpenEnd cs || hasSpecial cs ||
    startsIndicator cs || hasIndicator cs)

/- Text that can stand in single quotes. -/
def fitsSingle (cs : List Char) : Bool :=
  !(hasBreakSpace cs || hasSpaceBreak cs || hasSpecial cs)

/- Text that can stand in a literal block. -/
def fitsLiteral (cs : List Char) : Bool :=
  !(cs.getLast?.any isSpace || hasSpaceBreak cs || hasSpecial cs)

/- The form in which a text is written. -/
def ofText (s : String) : Form :=
  let cs := s.toList
  if cs.contains '\n' then
    if fitsLiteral cs then .literal else .double
  else if Value.isOwnText s && fitsPlain cs then .plain
  else if fitsSingle cs then .single
  else .double

------------------------------------------------------------
-- Writing
------------------------------------------------------------

def spaces (n : Nat) : List Char :=
  List.replicate n ' '

/- Lines behind the first are indented. -/
def indentLines (indent : Nat) (atStart : Bool) : List Char → List Char
  | [] => []
  | c :: cs =>
      if isBreak c then c :: indentLines indent true cs
      else
        (if atStart then spaces indent else []) ++
          c :: indentLines indent false cs

/- Text in single quotes. -/
def writeSingle (indent : Nat) (cs : List Char) : List Char :=
  let body := indentLines indent false cs
  let doubled := body.flatMap fun c =>
    if c = '\'' then ['\'', '\''] else [c]
  let closing := if cs.getLast?.any isBreak then spaces indent else []
  '\'' :: (doubled ++ closing ++ ['\''])

/- The last digits of a number in capital hexadecimal. -/
def hex (width n : Nat) : List Char :=
  let digits := (Nat.toDigits 16 n).map Char.toUpper
  List.replicate (width - digits.length) '0' ++ digits

/- The escape of a character. -/
def escape (c : Char) : List Char :=
  let n := c.toNat
  let letter? : Option Char :=
    if n = 0x00 then some '0'
    else if n = 0x07 then some 'a'
    else if n = 0x08 then some 'b'
    else if n = 0x09 then some 't'
    else if n = 0x0A then some 'n'
    else if n = 0x0B then some 'v'
    else if n = 0x0C then some 'f'
    else if n = 0x0D then some 'r'
    else if n = 0x1B then some 'e'
    else if c = '"' || c = '\\' then some c
    else if n = 0x85 then some 'N'
    else if n = 0xA0 then some '_'
    else if n = 0x2028 then some 'L'
    else if n = 0x2029 then some 'P'
    else none
  match letter? with
  | some l => ['\\', l]
  | none =>
      if n ≤ 0xFF then '\\' :: 'x' :: hex 2 n
      else if n ≤ 0xFFFF then '\\' :: 'u' :: hex 4 n
      else '\\' :: 'U' :: hex 8 n

/- Text in double quotes. -/
def writeDouble (cs : List Char) : List Char :=
  let body := cs.flatMap fun c =>
    if !isPrintable c || isBreak c || c = '"' || c = '\\' then
      escape c
    else [c]
  '"' :: (body ++ ['"'])

/- The mark that tells how a literal block ends. -/
def chompMark (cs : List Char) : List Char :=
  match cs.reverse with
  | [] => ['-']
  | c :: rest =>
      if !isBreak c then ['-']
      else if rest.isEmpty || rest.head?.any isBreak then ['+']
      else []

/- A literal block whose lines stand at an indentation. -/
def writeLiteral (indent : Nat) (cs : List Char) : List Char :=
  let width :=
    if cs.head?.any fun c => c = ' ' || isBreak c then ['2'] else []
  '|' :: (width ++ chompMark cs ++ '\n' :: indentLines indent true cs)

/- Text in a form; further lines stand at the indentation. -/
def write (indent : Nat) : Form → List Char → List Char
  | .plain, cs => cs
  | .single, cs => writeSingle indent cs
  | .double, cs => writeDouble cs
  | .literal, cs => writeLiteral indent cs

end Form

/- The written form of a scalar; collections have none. -/
def Value.scalarText (indent : Nat) : Value → List Char
  | .null => "null".toList
  | .bool true => "true".toList
  | .bool false => "false".toList
  | .int i => Digits.writeInt i
  | .float f => (numberNotation.render f).toList
  | .string s => (Form.ofText s).write indent s.toList
  | _ => []

end Yaml

end ManifestRecipes
