import ManifestRecipes.Binary64.Notation
import ManifestRecipes.Binary64.Reading
import ManifestRecipes.Yaml.Fault
import ManifestRecipes.Yaml.Value

/-
  The values of unquoted scalars.

  Unquoted text may spell null, a truth value, an integer in
  one of four bases or a floating point number.  Digits
  behind a leading zero are text.  All other text stands for
  itself.

  Key definitions include:
    * `Yaml.Value.null?`
    * `Yaml.Value.bool?`
    * `Yaml.Value.integer?`
    * `Yaml.Value.float?`
    * `Yaml.Value.ofPlain`
    * `Yaml.numberNotation`
-/

namespace ManifestRecipes

namespace Yaml

/-
  Numbers have a point or an exponent, and exponents from -5
  to 15 are written out.
-/
def numberNotation : NumberNotation where
  positional e := -5 ≤ e && e < 16
  wholePoint := true
  plusSign := false
  tieUp := false
  nan := ".nan"
  infinite := ".inf"

namespace Value

/- Texts for null other than the empty one. -/
def isNullText (s : String) : Bool :=
  s ∈ ["null", "Null", "NULL", "~"]

/- Texts for truth values. -/
def bool? (s : String) : Option Bool :=
  if s ∈ ["true", "True", "TRUE"] then some true
  else if s ∈ ["false", "False", "FALSE"] then some false
  else none

------------------------------------------------------------
-- Integers
------------------------------------------------------------

/- A text without a leading plus sign. -/
def withoutPlus : List Char → List Char
  | '+' :: cs => cs
  | cs => cs

def withoutSign : List Char → List Char
  | '-' :: cs => cs
  | cs => withoutPlus cs

/- Digits behind a leading zero are no number. -/
def isPaddedDigits (cs : List Char) : Bool :=
  match withoutSign cs with
  | '0' :: d :: ds => (d :: ds).all Digits.isDigit
  | _ => false

/- Digits behind a mark of their base. -/
def marked? : List Char → Option Nat
  | '0' :: 'x' :: ds => Digits.readNat? 16 ds
  | '0' :: 'o' :: ds => Digits.readNat? 8 ds
  | '0' :: 'b' :: ds => Digits.readNat? 2 ds
  | _ => none

/- An unsigned number in any base. -/
def magnitude? (cs : List Char) : Option Nat :=
  (marked? cs).or
    (if isPaddedDigits cs then none else Digits.readNat? 10 cs)

/- An integer in any base, with an optional sign. -/
def integer? : List Char → Option Int
  | '-' :: cs => (magnitude? cs).map fun n => -(n : Int)
  | cs => (magnitude? (withoutPlus cs)).map fun n => (n : Int)

/- Integers of one of the two 64-bit words. -/
def isWord64 (i : Int) : Bool :=
  -(Nat.pow 2 63 : Int) ≤ i && i < (Nat.pow 2 64 : Int)

/- Integers of one of the two 128-bit words. -/
def isWord128 (i : Int) : Bool :=
  -(Nat.pow 2 127 : Int) ≤ i && i < (Nat.pow 2 128 : Int)

/-
  Read an integer.  Those beyond 64 bits that fit into 128
  are refused; still larger ones are not read as integers.
-/
def ofInteger? (cs : List Char) : Except Fault (Option Value) :=
  match integer? cs with
  | some i =>
      if isWord64 i then .ok (some (.int i))
      else if isWord128 i then .error .wideInteger
      else .ok none
  | none => .ok none

------------------------------------------------------------
-- Floating Point Numbers
------------------------------------------------------------

/- A finite decimal numeral; a plus sign stands before no other sign. -/
def finite? (cs : List Char) : Option Binary64 :=
  let rest := withoutPlus cs
  if cs.head? = some '+' && rest.head?.any (· ∈ ['+', '-']) then
    none
  else (Binary64.read? rest).filter Binary64.isFinite

/- Texts for infinities and not-a-number, and decimal numerals. -/
def float? (s : String) : Option Binary64 :=
  if s ∈ [".inf", ".Inf", ".INF", "+.inf", "+.Inf", "+.INF"] then
    some (.infinite false)
  else if s ∈ ["-.inf", "-.Inf", "-.INF"] then
    some (.infinite true)
  else if s ∈ [".nan", ".NaN", ".NAN"] then some .nan
  else finite? s.toList

------------------------------------------------------------
-- Unquoted Text
------------------------------------------------------------

/- The value of an unquoted text. -/
def ofPlain (s : String) : Except Fault Value :=
  if s.isEmpty || isNullText s then .ok .null
  else
    match bool? s with
    | some b => .ok (.bool b)
    | none => do
        match ← ofInteger? s.toList with
        | some v => .ok v
        | none =>
            if isPaddedDigits s.toList then .ok (.string s)
            else
              match float? s with
              | some f => .ok (.float f)
              | none => .ok (.string s)

/- The texts that stand for themselves without quotes. -/
def isOwnText (s : String) : Bool :=
  match ofPlain s with
  | .ok (.string _) => !isPaddedDigits s.toList
  | _ => false

end Value

end Yaml

end ManifestRecipes
