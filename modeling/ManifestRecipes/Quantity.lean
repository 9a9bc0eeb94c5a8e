import ManifestRecipes.Quantity.Fault
import ManifestRecipes.Quantity.Unit

/-
  Resource quantities such as `500m`, `2` and `64Mi`.

  A quantity is a number of steps together with the unit it
  is written in.  Quantities are compared by their steps
  alone.

  Key definitions include:
    * `Quantity`
    * `Quantity.read`
    * `Quantity.text`
    * `Quantity.inUnit`
    * `Quantity.exceeds`
-/

namespace ManifestRecipes

/- A number of steps, written in a unit. -/
structure Quantity where
  absolute : Nat
  unit : Quantity.Unit
deriving DecidableEq, Repr

namespace Quantity

/- The whole count of the quantity's own unit. -/
def relative (q : Quantity) : Nat :=
  q.unit.relative q.absolute

/- The quantity as it is written, cut to a whole count. -/
def text (q : Quantity) : String :=
  Digits.text q.relative ++ q.unit.suffix

/- The same quantity, to be written in another unit. -/
def inUnit (q : Quantity) (u : Unit) : Quantity :=
  ⟨q.absolute, u⟩

def compare (q r : Quantity) : Ordering :=
  Ord.compare q.absolute r.absolute

/- Strictly larger. -/
def exceeds (q r : Quantity) : Bool :=
  r.absolute < q.absolute

/- Read an amount of a unit. -/
def ofParts (digits : List Char) (suffix : String) :
    Except Reason Quantity :=
  match Unit.ofSuffix? suffix with
  | none => .error (.unknownUnit suffix)
  | some u =>
      match (Digits.readUnsigned64? digits).bind u.absolute? with
      | some absolute => .ok ⟨absolute, u⟩
      | none => .error .amountRange

/- Read digits followed by the suffix of a unit. -/
def readChars (cs : List Char) : Except Reason Quantity :=
  let digits := cs.takeWhile Digits.isDigit
  let suffix := cs.dropWhile Digits.isDigit
  if digits.isEmpty then .error .amountExpected
  else if suffix.head? = some '.' then .error .fractional
  else ofParts digits (String.ofList suffix)

/- Read a quantity. -/
def read (input : String) : Except Fault Quantity :=
  (readChars input.toList).mapError (Fault.mk input)

end Quantity

end ManifestRecipes
