import ManifestRecipes.Binary64.Shortest

/-
  The layout of a number's shortest digits.

  A notation says which exponents are written positionally,
  whether whole numbers keep a point, and how the exponent
  and the special values are spelled.

  Key definitions include:
    * `NumberNotation`
    * `NumberNotation.render`
-/

namespace ManifestRecipes

/- The decisions of a number format. -/
structure NumberNotation where
  /- Exponents of the leading digit that are written out. -/
  positional : Int → Bool
  /- Whole numbers end in `.0`. -/
  wholePoint : Bool
  /- Positive exponents carry a plus sign. -/
  plusSign : Bool
  /- Equally near decimals go to the larger one. -/
  tieUp : Bool
  nan : String
  infinite : String

namespace NumberNotation

/- Digits with the point inside, before or after them. -/
def positionalText
    (ν : NumberNotation)
    (digits : List Char)
    (exponent : Int) : List Char :=
  let point : Int := digits.length + exponent
  if 0 ≤ exponent then
    digits ++ List.replicate exponent.toNat '0' ++
      (if ν.wholePoint then ['.', '0'] else [])
  else if 0 < point then
    digits.take point.toNat ++ '.' :: digits.drop point.toNat
  else
    '0' :: '.' :: List.replicate (-point).toNat '0' ++ digits

/- One digit, the others after a point, and the exponent. -/
def scientificText
    (ν : NumberNotation)
    (digits : List Char)
    (exponent : Int) : List Char :=
  let e : Int := digits.length + exponent - 1
  let mantissa :=
    match digits with
    | [] => []
    | [d] => [d]
    | d :: ds => d :: '.' :: ds
  mantissa ++ 'e' ::
    ((if ν.plusSign && 0 ≤ e then ['+'] else []) ++
      Digits.writeInt e)

/- A decimal in this notation. -/
def decimalText
    (ν : NumberNotation)
    (d : Decimal) : List Char :=
  let digits := Digits.write d.digits
  if ν.positional (digits.length + d.exponent - 1) then
    positionalText ν digits d.exponent
  else scientificText ν digits d.exponent

/- A number in this notation. -/
def render (ν : NumberNotation) : Binary64 → String
  | .nan => ν.nan
  | .infinite negative =>
      (if negative then "-" else "") ++ ν.infinite
  | .finite negative r =>
      let d : Decimal :=
        if r.val = 0 then ⟨0, 0⟩
        else Binary64.shortest ν.tieUp r.val
      String.ofList <|
        (if negative then ['-'] else []) ++ decimalText ν d

end NumberNotation

end ManifestRecipes
