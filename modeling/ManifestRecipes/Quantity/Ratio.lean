import ManifestRecipes.Binary64
import ManifestRecipes.Quantity
import ManifestRecipes.Text.Bytes
import ManifestRecipes.Unicode.Letter

/-
  Ratios between quantities.

  A ratio is written as a fraction of two whole numbers, as a
  decimal, or as one whole number.

  Key definitions include:
    * `Ratio`
    * `Ratio.read`
    * `Ratio.text`
    * `Ratio.exceeded`
-/

namespace ManifestRecipes

/- A fraction of two positive numbers. -/
structure Ratio where
  numerator : Nat
  denominator : Nat
deriving DecidableEq, Repr

namespace Ratio

open Quantity (Reason Fault)

/- A fraction as it is written; a whole number stands alone. -/
def text (r : Ratio) : String :=
  if r.denominator = 1 then Digits.text r.numerator
  else Digits.text r.numerator ++ "/" ++ Digits.text r.denominator

/- A fraction of positive numbers. -/
def ofParts (numerator denominator : Nat) : Except Reason Ratio :=
  if numerator = 0 || denominator = 0 then .error .ratioNotPositive
  else .ok ⟨numerator, denominator⟩

/- Read a 64-bit number that is written with digits alone. -/
def number (cs : List Char) : Except Reason Nat :=
  if cs.isEmpty || !cs.all Digits.isDigit then
    .error .numberExpected
  else
    match Digits.readUnsigned64? cs with
    | some n => .ok n
    | none => .error .ratioRange

/- Split a text at the first place of a character. -/
def splitAt? (c : Char) (cs : List Char) :
    Option (List Char × List Char) :=
  if cs.contains c then
    some (cs.takeWhile (· ≠ c), (cs.dropWhile (· ≠ c)).drop 1)
  else none

def ofFraction (n d : List Char) : Except Reason Ratio := do
  let n ← number (Unicode.trim n)
  let d ← number (Unicode.trim d)
  ofParts n d

/- Read a decimal; its places make the denominator. -/
def ofDecimal (whole places : List Char) : Except Reason Ratio :=
  let denominator := Nat.pow 10 (Bytes.count places)
  if Digits.inUnsigned 64 denominator then do
    let n ← number (whole ++ places)
    ofParts n denominator
  else .error .ratioRange

/- Read a ratio. -/
def readChars (cs : List Char) : Except Reason Ratio :=
  match splitAt? '/' cs with
  | some (n, d) => ofFraction n d
  | none =>
      match splitAt? '.' cs with
      | some (whole, places) => ofDecimal whole places
      | none => do
          let n ← number (Unicode.trim cs)
          ofParts n 1

/- Read a ratio. -/
def read (input : String) : Except Fault Ratio :=
  (readChars input.toList).mapError (Fault.mk input)

/- The product of a quantity's steps with a number, within 128 bits. -/
def product? (q : Quantity) (n : Nat) : Option Nat :=
  some (q.absolute * n) |>.filter (Digits.inUnsigned 128)

/- The product of a quantity's steps with a number, rounded at every step. -/
def roundedProduct (q : Quantity) (n : Nat) : Binary64 :=
  (Binary64.ofNat q.absolute).mul (Binary64.ofNat n)

/-
  The limit is more than the ratio allows for the request.
  Products beyond 128 bits are compared after rounding.
-/
def exceeded (r : Ratio) (limit request : Quantity) : Bool :=
  match product? limit r.denominator, product? request r.numerator with
  | some a, some b => b < a
  | _, _ =>
      (roundedProduct request r.numerator).lt
        (roundedProduct limit r.denominator)

end Ratio

end ManifestRecipes
