/-
  Natural numbers and integers written as digits.

  Writing produces the shortest decimal numeral.  Reading
  takes a nonempty run of digits in a given base, and the
  machine-sized readers add a sign and a range.

  Key definitions include:
    * `Digits.write`
    * `Digits.value`
    * `Digits.readNat?`
    * `Digits.readSigned64?`
    * `Digits.readUnsigned64?`
-/

namespace ManifestRecipes

namespace Digits

------------------------------------------------------------
-- Digits
------------------------------------------------------------

/- ASCII decimal digits. -/
def isDigit (c : Char) : Bool :=
  '0' ≤ c && c ≤ '9'

/- The value of a digit in bases up to sixteen. -/
def digitValue? (base : Nat) (c : Char) : Option Nat :=
  let v :=
    if '0' ≤ c && c ≤ '9' then some (c.toNat - 48)
    else if 'a' ≤ c && c ≤ 'f' then some (c.toNat - 87)
    else if 'A' ≤ c && c ≤ 'F' then some (c.toNat - 55)
    else none
  v.filter (· < base)

/- ASCII hexadecimal digits. -/
def isHexDigit (c : Char) : Bool :=
  (digitValue? 16 c).isSome

------------------------------------------------------------
-- Writing
------------------------------------------------------------

/- The decimal numeral of a natural number. -/
def write (n : Nat) : List Char :=
  Nat.toDigits 10 n

/- The decimal numeral of an integer, with a minus sign below zero. -/
def writeInt (i : Int) : List Char :=
  if i < 0 then '-' :: write i.natAbs else write i.natAbs

/- The decimal numeral of a natural number as text. -/
def text (n : Nat) : String :=
  String.ofList (write n)

/- The decimal numeral of an integer as text. -/
def textInt (i : Int) : String :=
  String.ofList (writeInt i)

------------------------------------------------------------
-- Reading
------------------------------------------------------------

/- The value of a run of decimal digits, most significant first. -/
def value (cs : List Char) : Nat :=
  cs.foldl (fun n c => 10 * n + (c.toNat - 48)) 0

/- Extend a value by further digits; fails at the first other character. -/
def extend? (base : Nat) : Nat → List Char → Option Nat
  | n, [] => some n
  | n, c :: cs =>
      match digitValue? base c with
      | some d => extend? base (base * n + d) cs
      | none => none

/- Read a nonempty run of digits in a base. -/
def readNat? (base : Nat) : List Char → Option Nat
  | [] => none
  | cs => extend? base 0 cs

/- Read digits with at most one leading sign. -/
def readInt? (base : Nat) : List Char → Option Int
  | '+' :: cs => (readNat? base cs).map Int.ofNat
  | '-' :: cs => (readNat? base cs).map (fun n => -Int.ofNat n)
  | cs => (readNat? base cs).map Int.ofNat

/- Read digits with at most one leading plus sign. -/
def readUnsigned? (base : Nat) : List Char → Option Nat
  | '+' :: cs => readNat? base cs
  | cs => readNat? base cs

/- Integers of a signed word of the given width. -/
def inSigned (bits : Nat) (i : Int) : Bool :=
  -(Nat.pow 2 (bits - 1) : Int) ≤ i && i < (Nat.pow 2 (bits - 1) : Int)

/- Naturals of an unsigned word of the given width. -/
def inUnsigned (bits : Nat) (n : Nat) : Bool :=
  n < Nat.pow 2 bits

/- Read a signed 64-bit decimal integer. -/
def readSigned64? (cs : List Char) : Option Int :=
  (readInt? 10 cs).filter (inSigned 64)

/- Read an unsigned 64-bit decimal integer. -/
def readUnsigned64? (cs : List Char) : Option Nat :=
  (readUnsigned? 10 cs).filter (inUnsigned 64)

end Digits

end ManifestRecipes
