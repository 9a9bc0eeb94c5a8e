import ManifestRecipes.Binary64.Notation
import ManifestRecipes.Binary64.Reading
import ManifestRecipes.Json

/-
  JSON numbers.

  Integers of 64 bits are kept exactly.  Every other number
  is a binary64: as many leading digits as fit into 64 bits
  are scaled by a power of ten.

  Key definitions include:
    * `Json.numberNotation`
    * `Json.ofParts?`
    * `Json.number?`
-/

namespace ManifestRecipes

namespace Json

/-
  Numbers have a point or an exponent, exponents from -5 to
  15 are written out, and the others carry their sign.
-/
def numberNotation : NumberNotation where
  positional e := -5 ≤ e && e < 16
  wholePoint := true
  plusSign := true
  tieUp := false
  nan := "null"
  infinite := "null"

/- The text of a value on one line. -/
def compact (j : Json) : String :=
  String.ofList (compactWith numberNotation.render j)

/- The text of a value on several lines. -/
def pretty (j : Json) : String :=
  String.ofList (prettyWith numberNotation.render 0 j)

------------------------------------------------------------
-- Scaling
------------------------------------------------------------

/- The largest power of ten that is used at once. -/
def powerLimit : Nat :=
  308

def power (n : Nat) : Binary64 :=
  Binary64.ofNat (Nat.pow 10 n)

/-
  Divide by a power of ten in steps; `fuel` bounds the steps,
  after which nothing but zero is left.
-/
def scaleDown : Nat → Binary64 → Nat → Binary64
  | 0, f, _ => f
  | fuel + 1, f, n =>
      if n ≤ powerLimit then f.div (power n)
      else if f.isZero then f
      else scaleDown fuel (f.div (power powerLimit)) (n - powerLimit)

/- A number from its leading digits and an exponent; fails if it is too large. -/
def ofParts? (digits : Nat) (exponent : Int) : Option Binary64 :=
  let f := Binary64.ofNat digits
  if exponent < 0 then some (scaleDown 5 f (-exponent).toNat)
  else if exponent ≤ powerLimit then
    some (f.mul (power exponent.toNat)) |>.filter Binary64.isFinite
  else if f.isZero then some f
  else none

------------------------------------------------------------
-- Digits
------------------------------------------------------------

/- Digits that still fit into 64 bits, and the others. -/
def fitting : Nat → List Char → Nat × List Char
  | n, [] => (n, [])
  | n, c :: cs =>
      let m := 10 * n + (c.toNat - 48)
      if Digits.inUnsigned 64 m then fitting m cs else (n, c :: cs)

/- The parts of a number as they are written. -/
structure NumberText where
  negative : Bool
  whole : List Char
  fraction? : Option (List Char)
  /- The sign of the exponent, true below zero, and its digits. -/
  exponent? : Option (Bool × List Char)

/- Whole numbers of 64 bits are integers; minus zero is not. -/
def integer? (negative : Bool) (n : Nat) : Option Int :=
  if !negative then some n
  else if 0 < n && n ≤ Nat.pow 2 63 then some (-(n : Int))
  else none

/- Put a sign on a number. -/
def signed (negative : Bool) (f : Binary64) : Binary64 :=
  if negative then f.neg else f

/- The largest exponent that is computed with. -/
def exponentLimit : Nat :=
  Nat.pow 2 31 - 1

/- The value of a number's text; fails if it is out of range. -/
def NumberText.value? (t : NumberText) : Option Json :=
  let (whole, dropped) := fitting 0 t.whole
  match t.fraction?, t.exponent?, dropped, integer? t.negative whole with
  | none, none, [], some i => some (.int i)
  | _, _, _, _ =>
      let fraction := t.fraction?.getD []
      let (digits, left) := fitting whole fraction
      let e : Int :=
        (dropped.length : Int) - (fraction.length - left.length : Nat)
      let f? :=
        match t.exponent? with
        | none => ofParts? digits e
        | some (below, ds) =>
            let x := Digits.value ds
            if exponentLimit < x then
              if digits = 0 || below then some Binary64.zero
              else none
            else ofParts? digits (if below then e - x else e + x)
      f?.map fun f => .float (signed t.negative f)

------------------------------------------------------------
-- Reading
------------------------------------------------------------

/- Read a nonempty run of digits. -/
def digits? (cs : List Char) : Option (List Char × List Char) :=
  let ds := cs.takeWhile Digits.isDigit
  if ds.isEmpty then none
  else some (ds, cs.dropWhile Digits.isDigit)

/- Read digits; a zero stands alone. -/
def whole? : List Char → Option (List Char × List Char)
  | '0' :: cs =>
      if cs.head?.any Digits.isDigit then none
      else some (['0'], cs)
  | cs => digits? cs

/- Read a point and digits, if there is a point. -/
def fraction? :
    List Char → Option (Option (List Char) × List Char)
  | '.' :: cs => (digits? cs).map fun (ds, rest) => (some ds, rest)
  | cs => some (none, cs)

/- Read an exponent, if there is one. -/
def exponent? :
    List Char → Option (Option (Bool × List Char) × List Char)
  | c :: cs =>
      if c = 'e' || c = 'E' then
        let (below, cs) := Numeral.sign cs
        (digits? cs).map fun (ds, rest) => (some (below, ds), rest)
      else some (none, c :: cs)
  | [] => some (none, [])

/- Read a number. -/
def number? (cs : List Char) : Option (Json × List Char) := do
  let (negative, cs) :=
    match cs with
    | '-' :: cs => (true, cs)
    | cs => (false, cs)
  let (whole, cs) ← whole? cs
  let (fraction?, cs) ← fraction? cs
  let (exponent?, cs) ← exponent? cs
  let j ← (NumberText.mk negative whole fraction? exponent?).value?
  some (j, cs)

end Json

end ManifestRecipes
