import ManifestRecipes.Pattern.Form.Bracket

/-
  Reading written patterns.

  Key definitions include:
    * `Pattern.Opening`
    * `Pattern.groupOpening`
    * `Pattern.count`
    * `Pattern.forms`
    * `Pattern.Form.read?`
-/

namespace ManifestRecipes

namespace Pattern

open Reader

------------------------------------------------------------
-- Groups
------------------------------------------------------------

/- What an opening parenthesis can begin. -/
inductive Opening where
  | group (settings : List Setting)
  | settings (settings : List Setting)
deriving DecidableEq, Repr

/- The switch of a letter. -/
def Switch.ofChar? (c : Char) : Option Switch :=
  match c with
  | 'i' => some .ignoreCase
  | 'm' => some .lines
  | 's' => some .dotAll
  | 'U' => some .lazy
  | 'u' => some .unicode
  | 'R' => some .returns
  | 'x' => some .spaced
  | _ => none

/-
  Read settings to the colon or parenthesis that ends them.
  One hyphen, before at least one letter, switches off, and
  no letter stands twice.
-/
def settings? (on fresh : Bool) (seen : List Setting) :
    List Char → Option (List Setting × Char × List Char)
  | [] => none
  | c :: cs =>
      if c = ':' || c = ')' then
        if !on && fresh then none else some (seen.reverse, c, cs)
      else if c = '-' then
        if on then settings? false true seen cs else none
      else
        match Switch.ofChar? c with
        | some s =>
            if (seen.map Prod.fst).contains s then none
            else settings? on false ((s, on) :: seen) cs
        | none => none

/- Characters that a group's name may begin with. -/
def isNameStart (c : Char) : Bool :=
  c = '_' || Unicode.isAlphabetic c

/- Characters of a group's name. -/
def isNameChar (c : Char) : Bool :=
  c = '_' || c = '.' || c = '[' || c = ']' ||
    Unicode.isAlphanumeric c

/- The names that a group can have. -/
def isGroupName : List Char → Bool
  | [] => false
  | c :: cs => isNameStart c && cs.all isNameChar

/- Read the name of a group; each names one group only. -/
def groupName (cs : List Char) : Reader Opening := do
  let name := cs.takeWhile (· ≠ '>')
  let s ← get
  check (isGroupName name && !s.names.contains (String.ofList name))
  set { s with
    rest := cs.dropWhile (· ≠ '>'),
    names := String.ofList name :: s.names }
  expect '>'
  return .group []

/- Read what follows the question mark at the beginning of a group. -/
def marked (cs : List Char) : Reader Opening := do
  match ← settings? true true [] cs with
  | (ss, c, rest) =>
      modify fun s => { s with rest := rest }
      if c = ':' then return .group ss
      else do
        check !ss.isEmpty
        return .settings ss

/- Read the beginning of a group; it cannot look around. -/
def groupOpening : Reader Opening := do
  next
  match (← get).rest with
  | '?' :: '=' :: _ => failure
  | '?' :: '!' :: _ => failure
  | '?' :: '<' :: '=' :: _ => failure
  | '?' :: '<' :: '!' :: _ => failure
  | '?' :: 'P' :: '<' :: cs => groupName cs
  | '?' :: '<' :: cs => groupName cs
  | '?' :: cs => marked cs
  | _ => return .group []

------------------------------------------------------------
-- Repetitions
------------------------------------------------------------

/- Leave out the mark of lazy repetitions. -/
def lazyMark : Reader Unit := do
  if (← peek?) = some '?' then skip 1

/- Leave out blanks; the pattern need not be spaced. -/
def numberBlanks : Reader Unit := do
  modify fun s => { s with rest := s.rest.dropWhile Unicode.isBlank }
  blanks

/- Read a number of 32 bits between blanks; there may be none. -/
def number? : Reader (Option Nat) := do
  modify fun s => { s with rest := s.rest.dropWhile Unicode.isBlank }
  let digits ← collect Digits.isDigit
  if (← peek?).any Unicode.isBlank then numberBlanks
  if digits.isEmpty then return none
  else do
    let n ← Digits.readNat? 10 digits
    check (Digits.inUnsigned 32 n)
    return some n

/- Read the bounds of a repetition in braces. -/
def count : Reader (Nat × Option Nat) := do
  proceed
  let least? ← number?
  if (← peek) = ',' then do
    proceed
    if (← peek) = '\x7d' then return (← least?, none)
    else do
      let least ← least?
      let most ← number?
      return (least, some (← most))
  else return (← least?, ← least?)

/- Read a repetition of a form. -/
def repetition (f : Form) (c : Char) : Reader Form := do
  if c = '\x7b' then do
    let (least, most?) ← count
    check ((← peek) = '\x7d')
    next
    lazyMark
    check (most?.all (least ≤ ·))
    return .repetition f least most?
  else do
    skip 1
    lazyMark
    if c = '?' then return .repetition f 0 (some 1)
    else return .repetition f (if c = '+' then 1 else 0) none

------------------------------------------------------------
-- Patterns
------------------------------------------------------------

/- Characters that repeat what stands before them. -/
def isRepetition (c : Char) : Bool :=
  c = '?' || c = '*' || c = '+' || c = '\x7b'

def Form.isRepeatable : Form → Bool
  | .settings _ => false
  | _ => true

def Escape.form : Escape → Form
  | .letter l => .letter l
  | .classOf e => .escape e
  | .anchor a => .anchor a

/- Read one character or class. -/
def primitive (c : Char) : Reader Form := do
  if c = '[' then bracket
  else if c = '\\' then return (← escape).form
  else do
    skip 1
    if c = '.' then return .dot
    else if c = '^' then return .anchor .lineStart
    else if c = '$' then return .anchor .lineEnd
    else return .letter ⟨c, false⟩

/- A switch sets how the rest of the group is read. -/
def applySpaced (settings : List Setting) : Reader Unit :=
  match settings.lookup Switch.spaced with
  | some on => modify fun s => { s with spaced := on }
  | none => return ()

/-
  Read the rest of a group, given the alternatives and the
  forms that were read before, each in reverse; `fuel` bounds
  the number of forms.
-/
def forms (alternatives : List Form) (items : List Form) :
    Nat → Reader Form
  | 0 => failure
  | fuel + 1 => do
      let finished :=
        Form.choice (.sequence items.reverse :: alternatives).reverse
      blanks
      match ← peek? with
      | none => return finished
      | some c =>
      if c = ')' then return finished
      else if c = '|' then do
        skip 1
        forms (.sequence items.reverse :: alternatives) [] fuel
      else if c = '(' then do
        match ← groupOpening with
        | .settings ss => do
            applySpaced ss
            forms alternatives (.settings ss :: items) fuel
        | .group ss => do
            let spaced := (← get).spaced
            applySpaced ss
            let f ← forms [] [] fuel
            expect ')'
            modify fun s => { s with spaced := spaced }
            forms alternatives (.group ss f :: items) fuel
      else if isRepetition c then
        match items with
        | [] => failure
        | f :: items => do
            check f.isRepeatable
            let g ← repetition f c
            forms alternatives (g :: items) fuel
      else do
        let f ← primitive c
        forms alternatives (f :: items) fuel

/- The form of a pattern; nothing may be left over. -/
def Form.read? (cs : List Char) : Option Form :=
  match (forms [] [] (cs.length + 1)).run ⟨cs, false, []⟩ with
  | some (f, s) => if s.rest.isEmpty then some f else none
  | none => none

end Pattern

end ManifestRecipes
