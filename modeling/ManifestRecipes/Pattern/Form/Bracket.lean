import ManifestRecipes.Pattern.Form.Escape

/-
  Bracketed classes in written patterns.

  A bracket lists characters, ranges, classes and further
  brackets.  Two ampersands, hyphens or tildes stand between
  the operands of an operation on classes.

  Key definitions include:
    * `Pattern.classMember`
    * `Pattern.members`
    * `Pattern.bracket`
-/

namespace ManifestRecipes

namespace Pattern

open Reader

------------------------------------------------------------
-- Named Classes
------------------------------------------------------------

/- The named class of a name. -/
def AsciiClass.ofName? (name : String) : Option AsciiClass :=
  match name with
  | "alnum" => some .alnum
  | "alpha" => some .alpha
  | "ascii" => some .ascii
  | "blank" => some .blank
  | "cntrl" => some .cntrl
  | "digit" => some .digit
  | "graph" => some .graph
  | "lower" => some .lower
  | "print" => some .print
  | "punct" => some .punct
  | "space" => some .space
  | "upper" => some .upper
  | "word" => some .word
  | "xdigit" => some .xdigit
  | _ => none

/- The class whose name and closing mark a text begins with. -/
def namedClass? (negated : Bool) (cs : List Char) :
    Option (Member × List Char) := do
  let kind ←
    AsciiClass.ofName? (String.ofList (cs.takeWhile (· ≠ ':')))
  match cs.dropWhile (· ≠ ':') with
  | ':' :: ']' :: rest => some (.ascii kind negated, rest)
  | _ => none

/- The named class that a text begins with. -/
def asciiClass? : List Char → Option (Member × List Char)
  | '[' :: ':' :: '^' :: cs => namedClass? true cs
  | '[' :: ':' :: cs => namedClass? false cs
  | _ => none

------------------------------------------------------------
-- Characters and Ranges
------------------------------------------------------------

/- Read a character or an escape. -/
def classItem : Reader Escape := do
  let c ← peek
  if c = '\\' then escape
  else do
    skip 1
    return .letter ⟨c, false⟩

/- An escape as a member of a class; anchors are none. -/
def Escape.member? : Escape → Option Member
  | .letter l => some (.letter l)
  | .classOf e => some (.escape e)
  | .anchor _ => none

/- An escape as the end of a range. -/
def Escape.letter? : Escape → Option Letter
  | .letter l => some l
  | _ => none

/-
  The character behind a hyphen.  In a spaced pattern blanks
  and the sign of one comment are passed over.
-/
def behindHyphen? (spaced : Bool) (cs : List Char) : Option Char :=
  if spaced then
    match cs.dropWhile Unicode.isBlank with
    | '#' :: ds =>
        match ds.dropWhile Unicode.isBlank with
        | d :: _ => some d
        | [] => cs.head?
    | d :: _ => some d
    | [] => cs.head?
  else cs.head?

/- A hyphen begins the second half of a range. -/
def continuesRange : Reader Bool := do
  let s ← get
  match s.rest with
  | '-' :: cs =>
      let c? := behindHyphen? s.spaced cs
      return c? ≠ some ']' && c? ≠ some '-'
  | _ => return false

/- Read a range or a single member. -/
def classMember : Reader Member := do
  let first ← classItem
  blanks
  discard peek
  if ← continuesRange then do
    proceed
    let last ← classItem
    let a ← first.letter?
    let b ← last.letter?
    check (a.char ≤ b.char)
    return .range a b
  else first.member?

------------------------------------------------------------
-- Brackets
------------------------------------------------------------

/- Read hyphens at the beginning of a bracket. -/
def leadingHyphens : Nat → Reader (List Member)
  | 0 => return []
  | n + 1 => do
      if (← peek) = '-' then do
        proceed
        return .letter ⟨'-', false⟩ :: (← leadingHyphens n)
      else return []

/-
  Read the beginning of a bracket: whether it is negated and
  the members that are literal in this place only.
-/
def opening : Reader (Bool × List Member) := do
  proceed
  let negated := (← peek) = '^'
  if negated then proceed
  let hyphens ← leadingHyphens (← get).rest.length
  if hyphens.isEmpty && (← peek) = ']' then do
    proceed
    return (negated, [.letter ⟨']', false⟩])
  else return (negated, hyphens)

/- An operator with its left operand, which waits for the right one. -/
abbrev Pending :=
  Option (ClassOperator × Member)

/- Members, listed in reverse, together with what waits for them. -/
def closeMembers (pending : Pending) (items : List Member) : Member :=
  match pending with
  | some (op, left) => .operation op left (.union items.reverse)
  | none => .union items.reverse

/- The operator that a text begins with. -/
def operator? : List Char → Option ClassOperator
  | '&' :: '&' :: _ => some .intersection
  | '-' :: '-' :: _ => some .difference
  | '~' :: '~' :: _ => some .symmetricDifference
  | _ => none

/-
  Read the members of a bracket to its end; `fuel` bounds
  their number.
-/
def members (pending : Pending) (items : List Member) :
    Nat → Reader Member
  | 0 => failure
  | fuel + 1 => do
      blanks
      let s ← get
      match asciiClass? s.rest with
      | some (m, rest) =>
          set { s with rest := rest }
          members pending (m :: items) fuel
      | none =>
      match operator? s.rest with
      | some op =>
          skip 2
          members (some (op, closeMembers pending items)) [] fuel
      | none =>
      let c ← peek
      if c = ']' then do
        skip 1
        return closeMembers pending items
      else if c = '[' then do
        let (negated, first) ← opening
        let m ← members none first fuel
        members pending (.bracket negated m :: items) fuel
      else do
        let m ← classMember
        members pending (m :: items) fuel

/- Read a bracketed class. -/
def bracket : Reader Form := do
  let (negated, first) ← opening
  let m ← members none first ((← get).rest.length + 1)
  return .bracket negated m

end Pattern

end ManifestRecipes
