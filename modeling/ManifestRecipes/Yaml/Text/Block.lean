import ManifestRecipes.Yaml.Fault
import ManifestRecipes.Yaml.Position

/-
  Block scalars.

  A header says how line ends are treated; the indented lines
  behind it are the text.  A literal scalar keeps its line
  ends, a folded one joins lines that start with no blank.

  Key definitions include:
    * `Yaml.Block.Chomping`
    * `Yaml.Block.header`
    * `Yaml.Block.read`
-/

namespace ManifestRecipes

namespace Yaml

namespace Block

------------------------------------------------------------
-- Headers
------------------------------------------------------------

/- What becomes of the line ends behind the last line. -/
inductive Chomping where
  | strip
  | clip
  | keep
deriving DecidableEq, Repr

/- The marks of a header and the place behind them. -/
structure Header where
  chomping : Chomping
  /- The width of the indentation, where it is given. -/
  width? : Option Nat
  next : Position

/- The chomping mark at a place. -/
def chomping? (p : Position) : Option Chomping :=
  match p.rest with
  | '+' :: _ => some .keep
  | '-' :: _ => some .strip
  | _ => none

/- The digit at a place. -/
def width? (p : Position) : Option Nat :=
  p.rest.head?.bind (Digits.digitValue? 10)

/- Read the marks of a header in either order. -/
def marks (p : Position) : Header :=
  match chomping? p with
  | some ch =>
      match width? (p.move 1) with
      | some w => ⟨ch, some w, p.move 2⟩
      | none => ⟨ch, none, p.move 1⟩
  | none =>
      match width? p with
      | some w =>
          match chomping? (p.move 1) with
          | some ch => ⟨ch, some w, p.move 2⟩
          | none => ⟨.clip, some w, p.move 1⟩
      | none => ⟨.clip, none, p⟩

/- Read a header from its indicator to the end of its line. -/
def header (p : Position) : Except Fault Header :=
  let h := marks (p.move 1)
  let q := h.next.skip isBlank
  let q := if q.rest.head? = some '#' then q.skipLine else q
  if h.width? = some 0 || !q.atBreak then .error .blockHeader
  else .ok { h with next := q.nextLine }

------------------------------------------------------------
-- Lines
------------------------------------------------------------

/- The breaks of empty lines, the widest indentation and the place behind. -/
structure Empties where
  breaks : List Char
  widest : Nat
  next : Position

/-
  Read indentation and empty lines.  `indent?` is the
  indentation where it is known; spaces behind it are text.
-/
def emptiesFrom
    (indent? : Option Nat) :
    Nat → List Char → Nat → Position → Except Fault Empties
  | 0, breaks, widest, p => .ok ⟨breaks, widest, p⟩
  | fuel + 1, breaks, widest, p =>
      let spaces := (p.rest.takeWhile (· = ' ')).length
      let width :=
        match indent? with
        | some n => min spaces (n - p.column)
        | none => spaces
      let q := p.move width
      let widest := max widest q.column
      let inside :=
        match indent? with
        | some n => q.column < n
        | none => true
      if inside && q.rest.head? = some '\t' then .error .tab
      else if q.rest.isEmpty || !q.atBreak then
        .ok ⟨breaks, widest, q⟩
      else
        emptiesFrom indent? fuel (breaks ++ q.breakText)
          widest q.nextLine

/- Read indentation and empty lines up to the next line of text. -/
def empties
    (indent? : Option Nat)
    (p : Position) : Except Fault Empties :=
  emptiesFrom indent? (p.rest.length + 1) [] 0 p

/- Lines read so far. -/
structure Lines where
  text : List Char
  /- The break behind the last line. -/
  last : List Char
  /- The breaks of the empty lines behind it. -/
  trailing : List Char
  /- The last line started with a blank. -/
  indented : Bool
  next : Position

/- A folded scalar joins two lines that start with no blank. -/
def joinText
    (literal : Bool)
    (ls : Lines)
    (blank : Bool) : List Char :=
  if !literal && ls.last = ['\n'] && !ls.indented && !blank then
    if ls.trailing.isEmpty then [' '] else ls.trailing
  else ls.last ++ ls.trailing

/- Read lines of the given indentation. -/
def linesFrom
    (literal : Bool)
    (indent : Nat) : Nat → Lines → Except Fault Lines
  | 0, ls => .ok ls
  | fuel + 1, ls =>
      match ls.next.rest with
      | [] => .ok ls
      | c :: _ =>
          if ls.next.column ≠ indent then .ok ls
          else do
            let (line, q) := ls.next.span fun c => !isBreak c
            let text := ls.text ++ joinText literal ls (isBlank c)
            let e ← empties (some indent) q.nextLine
            linesFrom literal indent fuel
              ⟨text ++ line, q.breakText, e.breaks, isBlank c,
                e.next⟩

/- The text of all lines with what is kept of the line ends. -/
def Lines.close (ls : Lines) : Chomping → List Char
  | .strip => ls.text
  | .clip => ls.text ++ ls.last
  | .keep => ls.text ++ ls.last ++ ls.trailing

/-
  Read a block scalar from its indicator on.  `parent?` is
  the indentation of the block around it.
-/
def read
    (literal : Bool)
    (parent? : Option Nat)
    (p : Position) : Except Fault (List Char × Position) := do
  let h ← header p
  let given? := h.width?.map fun w => parent?.getD 0 + w
  let e ← empties given? h.next
  let least :=
    match parent? with
    | some n => n + 1
    | none => 1
  let indent := given?.getD (max e.widest least)
  let ls ← linesFrom literal indent (p.rest.length + 1)
    ⟨[], [], e.breaks, false, e.next⟩
  .ok (ls.close h.chomping, ls.next)

end Block

end Yaml

end ManifestRecipes
