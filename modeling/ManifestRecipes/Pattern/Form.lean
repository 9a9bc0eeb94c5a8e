import ManifestRecipes.Unicode.Query

/-
  Patterns as they are written.

  A form is the structure of a written pattern before it is
  settled what its parts stand for, since that depends on
  switches that are set along the way.

  Key definitions include:
    * `Pattern.Switch`
    * `Pattern.Member`
    * `Pattern.Form`
    * `Pattern.Form.depth`
-/

namespace ManifestRecipes

namespace Pattern

------------------------------------------------------------
-- Parts
------------------------------------------------------------

/- What can be switched on and off within a pattern. -/
inductive Switch where
  /- Letters stand for all their case variants. -/
  | ignoreCase
  /- Line anchors look at lines instead of the text. -/
  | lines
  /- The dot stands for line ends, too. -/
  | dotAll
  /- Repetitions are lazy unless marked; this makes no difference to what matches. -/
  | lazy
  /- Classes have their Unicode extent. -/
  | unicode
  /- Lines may also end in a carriage return. -/
  | returns
  /- Blanks and comments are left out. -/
  | spaced
deriving DecidableEq, Repr

/- A switch with its new position. -/
abbrev Setting :=
  Switch × Bool

/- A character, which may be written as a byte with two hex digits. -/
structure Letter where
  char : Char
  isByte : Bool
deriving DecidableEq, Repr

/- The classes with a shorthand. -/
inductive Shorthand where
  | digit
  | blank
  | word
deriving DecidableEq, Repr

/- The named classes of ASCII characters. -/
inductive AsciiClass where
  | alnum
  | alpha
  | ascii
  | blank
  | cntrl
  | digit
  | graph
  | lower
  | print
  | punct
  | space
  | upper
  | word
  | xdigit
deriving DecidableEq, Repr

/- A class outside of brackets, possibly negated. -/
inductive ClassEscape where
  | shorthand (kind : Shorthand) (negated : Bool)
  | query (query : Unicode.Query) (negated : Bool)
deriving DecidableEq, Repr

/- What an assertion asks, before the switches are considered. -/
inductive Anchor where
  | lineStart
  | lineEnd
  | textStart
  | textEnd
  | edge
  | inner
  | start
  | finish
  | openLeft
  | openRight
deriving DecidableEq, Repr

/- The operations on classes. -/
inductive ClassOperator where
  | intersection
  | difference
  | symmetricDifference
deriving DecidableEq, Repr

------------------------------------------------------------
-- Forms
------------------------------------------------------------

/- The members of a bracketed class. -/
inductive Member where
  | letter (l : Letter)
  | range (first last : Letter)
  | ascii (kind : AsciiClass) (negated : Bool)
  | escape (e : ClassEscape)
  | bracket (negated : Bool) (m : Member)
  | union (ms : List Member)
  | operation (op : ClassOperator) (left right : Member)

/- Written patterns. -/
inductive Form where
  | letter (l : Letter)
  | dot
  | anchor (a : Anchor)
  | escape (e : ClassEscape)
  | bracket (negated : Bool) (m : Member)
  | repetition (f : Form) (least : Nat) (most? : Option Nat)
  | group (settings : List Setting) (f : Form)
  | settings (settings : List Setting)
  | sequence (fs : List Form)
  | choice (fs : List Form)

------------------------------------------------------------
-- Depth
------------------------------------------------------------

/- Several parts make one level; a single part makes none. -/
def levelOf {α : Type} (parts : List α) : Nat :=
  if parts.length ≤ 1 then 0 else 1

mutual

/- How deeply the members of a class are nested. -/
def Member.depth : Member → Nat
  | .bracket _ m => m.depth + 1
  | .union ms => Member.depths ms + levelOf ms
  | .operation _ l r => max l.depth r.depth + 1
  | _ => 0

def Member.depths : List Member → Nat
  | [] => 0
  | m :: ms => max m.depth (Member.depths ms)

end

mutual

/- How deeply a form is nested. -/
def Form.depth : Form → Nat
  | .bracket _ m => m.depth + 1
  | .repetition f _ _ => f.depth + 1
  | .group _ f => f.depth + 1
  | .sequence fs => Form.depths fs + levelOf fs
  | .choice fs => Form.depths fs + levelOf fs
  | _ => 0

def Form.depths : List Form → Nat
  | [] => 0
  | f :: fs => max f.depth (Form.depths fs)

end

end Pattern

end ManifestRecipes
