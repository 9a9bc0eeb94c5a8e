import ManifestRecipes.Path
import ManifestRecipes.Unicode.Letter

/-
  Path expressions: patterns for the nodes of a tree.

  An expression is a list of segments, each leading from some
  nodes to others.  Unless it begins at the root it is
  relative to the node it is applied to.

  Key definitions include:
    * `Segment`
    * `Expression`
    * `Segment.writeAll`
    * `Expression.canonical`
-/

namespace ManifestRecipes

/- One step from a set of nodes to another. -/
inductive Segment where
  /- The root. -/
  | root
  /- The value of a name in a mapping. -/
  | field (name : String)
  /- The nodes and everything below them. -/
  | descent
  /- All items of a sequence. -/
  | everyItem
  /- All values of a mapping. -/
  | everyField
  /- One item of a sequence. -/
  | index (i : Nat)
deriving DecidableEq, Repr

/- Segments together with the text they were read from. -/
structure Expression where
  source : String
  segments : List Segment
deriving DecidableEq, Repr

namespace Segment

/- Letters, numbers, underscore and hyphen. -/
def isNameChar (c : Char) : Bool :=
  Unicode.isAlphanumeric c || c = '_' || c = '-'

/- Names that are written without quotes. -/
def isBareName (cs : List Char) : Bool :=
  !cs.isEmpty && cs.all isNameChar

/- A segment as it is written, where `descended` tells that it follows a descent. -/
def write (descended : Bool) : Segment → List Char
  | .root => ['$']
  | .field name =>
      let cs := name.toList
      if isBareName cs then
        if descended then cs else '.' :: cs
      else Path.quotedName cs
  | .descent => ['.', '.']
  | .everyItem => ['[', '*', ']']
  | .everyField => if descended then ['*'] else ['.', '*']
  | .index i => Path.bracketIndex i

def writeFrom (descended : Bool) : List Segment → List Char
  | [] => []
  | s :: ss => s.write descended ++ writeFrom (s = .descent) ss

/- A list of segments as it is written. -/
def writeAll (ss : List Segment) : List Char :=
  writeFrom false ss

end Segment

namespace Expression

/- The text of the segments. -/
def canonical (e : Expression) : String :=
  String.ofList (Segment.writeAll e.segments)

def ofSegments (ss : List Segment) : Expression :=
  ⟨String.ofList (Segment.writeAll ss), ss⟩

def isAbsolute (e : Expression) : Bool :=
  e.segments.head? = some .root

end Expression

end ManifestRecipes
