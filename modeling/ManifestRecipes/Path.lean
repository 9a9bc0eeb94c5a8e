import ManifestRecipes.Text.Digits

/-
  Paths: the way from a root to a node.

  A step of a path is a field name or an index.  A path is
  written after a dollar sign, with names in brackets and
  quotes unless they are plain.

  Key definitions include:
    * `Path`
    * `Path.Element`
    * `Path.text`
    * `Path.compare`
-/

namespace ManifestRecipes

namespace Path

/- One step of a path. -/
inductive Element where
  | field (name : String)
  | index (i : Nat)
deriving DecidableEq, Repr

end Path

/- Steps from the root. -/
abbrev Path :=
  List Path.Element

namespace Path

namespace Element

def fieldName? : Element → Option String
  | .field name => some name
  | .index _ => none

end Element

------------------------------------------------------------
-- Written Form
------------------------------------------------------------

/- Letters, digits, underscore and hyphen of ASCII. -/
def isPlainChar (c : Char) : Bool :=
  (c.isAlpha || c.isDigit) || (c = '_' || c = '-')

/- Names that are written without quotes. -/
def isPlainName (cs : List Char) : Bool :=
  !cs.isEmpty && cs.all isPlainChar

/- A name with a backslash before each backslash and quote. -/
def escapeName (cs : List Char) : List Char :=
  cs.flatMap fun c =>
    if c = '\\' || c = '\'' then ['\\', c] else [c]

def quotedName (cs : List Char) : List Char :=
  '[' :: '\'' :: (escapeName cs ++ ['\'', ']'])

def bracketIndex (i : Nat) : List Char :=
  '[' :: (Digits.write i ++ [']'])

/- A step as it is written. -/
def Element.chars : Element → List Char
  | .field name =>
      if isPlainName name.toList then '.' :: name.toList
      else quotedName name.toList
  | .index i => bracketIndex i

/- A path as it is written. -/
def chars (p : Path) : List Char :=
  '$' :: p.flatMap Element.chars

/- A path as text. -/
def text (p : Path) : String :=
  String.ofList (chars p)

------------------------------------------------------------
-- Order
------------------------------------------------------------

/- Field names come before indices. -/
def Element.compare : Element → Element → Ordering
  | .field a, .field b => Ord.compare a b
  | .field _, .index _ => .lt
  | .index _, .field _ => .gt
  | .index i, .index j => Ord.compare i j

/- Paths in lexicographic order. -/
def compare : Path → Path → Ordering
  | [], [] => .eq
  | [], _ :: _ => .lt
  | _ :: _, [] => .gt
  | a :: p, b :: q => (a.compare b).then (compare p q)

def sort (ps : List Path) : List Path :=
  ps.mergeSort fun p q => compare p q != .gt

end Path

end ManifestRecipes
