import ManifestRecipes.Expression
import ManifestRecipes.Text.Bytes
import ManifestRecipes.Text.Quoted

/-
  Reading path expressions.

  An expression begins with a dollar sign or a bare name, or
  with its first step.  A step is a name or a star behind one
  dot or two, or a bracket with a star, an index or a quoted
  name.

  Key definitions include:
    * `Expression.Reason`
    * `Expression.Stop`
    * `Expression.steps`
    * `Expression.segmentsOf`
    * `Expression.read`
-/

namespace ManifestRecipes

namespace Expression

------------------------------------------------------------
-- Faults
------------------------------------------------------------

/- Why a text is not an expression. -/
inductive Reason where
  | empty
  | unexpected (c : Char)
  | nameExpected
  | descentTarget
  | bracketContent
  | indexRange
  | openQuote
  | bracketEnd
deriving DecidableEq, Repr

/- The wording of a reason. -/
def Reason.text : Reason → String
  | .empty => "empty expression"
  | .unexpected c => "unexpected character " ++ Quoted.character c
  | .nameExpected => "expected a field name after '.'"
  | .descentTarget =>
      "'..' must be followed by a field name, '*' or '['"
  | .bracketContent => "expected '*', an index or a quoted name"
  | .indexRange => "index out of range"
  | .openQuote => "unterminated quoted name"
  | .bracketEnd => "expected ']'"

/- The rest of the text where reading stopped, and why. -/
structure Stop where
  rest : List Char
  reason : Reason
deriving DecidableEq, Repr

/- A text that is not an expression, with the byte offset of the fault. -/
structure Fault where
  source : String
  position : Nat
  reason : Reason
deriving DecidableEq, Repr

def Fault.message (f : Fault) : String :=
  "malformed path expression " ++ Quoted.text f.source ++ " at " ++
    Digits.text f.position ++ ": " ++ f.reason.text

------------------------------------------------------------
-- Steps
------------------------------------------------------------

/- Read the name at the beginning, which may be empty. -/
def name (cs : List Char) : String × List Char :=
  (String.ofList (cs.takeWhile Segment.isNameChar),
    cs.dropWhile Segment.isNameChar)

/-
  Read to the closing quote; a backslash makes the next
  character literal.
-/
def quoted? (quote : Char) :
    List Char → Option (List Char × List Char)
  | [] => none
  | c :: cs =>
      if c = '\\' then
        match cs with
        | [] => none
        | d :: ds => do
            let (text, rest) ← quoted? quote ds
            some (d :: text, rest)
      else if c = quote then some ([], cs)
      else do
        let (text, rest) ← quoted? quote cs
        some (c :: text, rest)

/- A bracket ends behind its content. -/
def closed
    (s : Segment) : List Char → Except Stop (Segment × List Char)
  | ']' :: rest => .ok (s, rest)
  | rest => .error ⟨rest, .bracketEnd⟩

/- Read a bracket whose content is given. -/
def bracket (content : List Char) : Except Stop (Segment × List Char) :=
  let opening := '[' :: content
  match content with
  | [] => .error ⟨opening, .bracketContent⟩
  | c :: cs =>
      if c = '*' then closed .everyItem cs
      else if c = '\'' || c = '"' then
        match quoted? c cs with
        | some (text, rest) => closed (.field (String.ofList text)) rest
        | none => .error ⟨opening, .openQuote⟩
      else if Digits.isDigit c then
        let digits := content.takeWhile Digits.isDigit
        match Digits.readUnsigned64? digits with
        | some i => closed (.index i) (content.dropWhile Digits.isDigit)
        | none => .error ⟨opening, .indexRange⟩
      else .error ⟨opening, .bracketContent⟩

/- Read what follows two dots. -/
def afterDescent (cs : List Char) : Except Stop (Segment × List Char) :=
  match cs with
  | '*' :: rest => .ok (.everyField, rest)
  | '[' :: rest => bracket rest
  | _ =>
      let (text, rest) := name cs
      if text.isEmpty then
        .error ⟨'.' :: '.' :: cs, .descentTarget⟩
      else .ok (.field text, rest)

/- Read one step, which may stand for two segments. -/
def step (c : Char) (cs : List Char) :
    Except Stop (List Segment × List Char) :=
  if c = '.' then
    match cs with
    | '.' :: rest => do
        let (s, rest) ← afterDescent rest
        .ok ([.descent, s], rest)
    | '*' :: rest => .ok ([.everyField], rest)
    | _ =>
        let (text, rest) := name cs
        if text.isEmpty then .error ⟨c :: cs, .nameExpected⟩
        else .ok ([.field text], rest)
  else if c = '[' then do
    let (s, rest) ← bracket cs
    .ok ([s], rest)
  else .error ⟨c :: cs, .unexpected c⟩

/- Read steps to the end of the text; `fuel` bounds their number. -/
def steps : Nat → List Char → Except Stop (List Segment)
  | _, [] => .ok []
  | 0, c :: cs => .error ⟨c :: cs, .unexpected c⟩
  | fuel + 1, c :: cs => do
      let (ss, rest) ← step c cs
      let more ← steps fuel rest
      .ok (ss ++ more)

------------------------------------------------------------
-- Expressions
------------------------------------------------------------

/- Read the beginning of an expression. -/
def beginning (cs : List Char) : List Segment × List Char :=
  match cs with
  | '$' :: rest => ([.root], rest)
  | _ =>
      let (text, rest) := name cs
      if text.isEmpty then ([], cs) else ([.field text], rest)

/- The segments of a text. -/
def segmentsOf (cs : List Char) : Except Stop (List Segment) :=
  if (Unicode.trim cs).isEmpty then .error ⟨cs, .empty⟩
  else do
    let (ss, rest) := beginning cs
    let more ← steps rest.length rest
    .ok (ss ++ more)

/- Read an expression. -/
def read (source : String) : Except Fault Expression :=
  let cs := source.toList
  match segmentsOf cs with
  | .ok ss => .ok ⟨source, ss⟩
  | .error s =>
      .error ⟨source, Bytes.count cs - Bytes.count s.rest, s.reason⟩

end Expression

end ManifestRecipes
