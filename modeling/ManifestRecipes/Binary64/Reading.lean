import ManifestRecipes.Binary64
import ManifestRecipes.Text.Digits

/-
  Decimal numerals read as binary64 numbers.

  A numeral is an optional sign followed by `inf`,
  `infinity` or `nan` in any case, or by digits with at most
  one point and an optional exponent; at least one digit
  stands before the exponent.

  Key definitions include:
    * `Numeral`
    * `Numeral.read?`
    * `Binary64.ofDecimal`
    * `Binary64.read?`
-/

namespace ManifestRecipes

------------------------------------------------------------
-- Numerals
------------------------------------------------------------

/- The shapes of a signed decimal numeral. -/
inductive Numeral where
  | nan
  | infinite (negative : Bool)
  | decimal
      (negative : Bool)
      (digits : Nat)
      (exponent : Int)
deriving DecidableEq

namespace Numeral

/- Read an optional sign; true means negative. -/
def sign : List Char → Bool × List Char
  | '-' :: cs => (true, cs)
  | '+' :: cs => (false, cs)
  | cs => (false, cs)

/- Read an exponent mark with its number, or nothing. -/
def exponent? : List Char → Option Int
  | [] => some 0
  | c :: cs =>
      if c = 'e' || c = 'E' then Digits.readInt? 10 cs
      else none

/- Read digits, a point and digits, and an exponent. -/
def unsigned? (negative : Bool) (cs : List Char) : Option Numeral :=
  let whole := cs.takeWhile Digits.isDigit
  let rest := cs.dropWhile Digits.isDigit
  let (fraction, rest) :=
    match rest with
    | '.' :: after =>
        (after.takeWhile Digits.isDigit,
          after.dropWhile Digits.isDigit)
    | _ => ([], rest)
  if whole.isEmpty && fraction.isEmpty then none
  else do
    let e ← exponent? rest
    some <| .decimal negative
      (Digits.value (whole ++ fraction))
      (e - fraction.length)

/- Read a whole text as a numeral. -/
def read? (cs : List Char) : Option Numeral :=
  let (negative, rest) := sign cs
  match rest.map Char.toLower with
  | ['i', 'n', 'f'] => some (.infinite negative)
  | ['i', 'n', 'f', 'i', 'n', 'i', 't', 'y'] =>
      some (.infinite negative)
  | ['n', 'a', 'n'] => some .nan
  | _ => unsigned? negative rest

end Numeral

------------------------------------------------------------
-- Values
------------------------------------------------------------

namespace Binary64

/-
  The number nearest to `digits * 10 ^ exponent`.  Exponents
  far outside the range are settled before any power is
  computed.
-/
def ofDecimal
    (negative : Bool)
    (digits : Nat)
    (exponent : Int) : Binary64 :=
  let top := exponent + (Digits.write digits).length
  if digits = 0 || top < -330 then
    signedZero negative
  else if 310 < top then .infinite negative
  else if 0 ≤ exponent then
    ofRatio negative (digits * Nat.pow 10 exponent.toNat) 1
  else ofRatio negative digits (Nat.pow 10 (-exponent).toNat)

def ofNumeral : Numeral → Binary64
  | .nan => .nan
  | .infinite n => .infinite n
  | .decimal n d e => ofDecimal n d e

/- Read a whole text as a number. -/
def read? (cs : List Char) : Option Binary64 :=
  (Numeral.read? cs).map ofNumeral

end Binary64

end ManifestRecipes
