import ManifestRecipes.Unicode.Category
import ManifestRecipes.Unicode.Property

/-
  Letters, digits and blanks.

  On ASCII the classes are those of core; beyond it they are
  looked up in the tables.

  Key definitions include:
    * `isAlphabetic`
    * `isAlphanumeric`
    * `isBlank`
    * `trim`
-/

namespace ManifestRecipes

namespace Unicode

/- Characters with property Alphabetic. -/
def isAlphabetic (c : Char) : Bool :=
  if c.toNat < 128 then c.isAlpha
  else Property.alphabeticSet.contains c.toNat

/- Characters of one of the categories of numbers. -/
def isNumeric (c : Char) : Bool :=
  if c.toNat < 128 then c.isDigit
  else
    Category.decimalNumberSet.contains c.toNat ||
      Category.letterNumberSet.contains c.toNat ||
        Category.otherNumberSet.contains c.toNat

/- Letters and numbers. -/
def isAlphanumeric (c : Char) : Bool :=
  isAlphabetic c || isNumeric c

/- Characters with property White_Space. -/
def isBlank (c : Char) : Bool :=
  if c.toNat < 128 then
    c.toNat = 32 || (9 ≤ c.toNat && c.toNat ≤ 13)
  else Property.whiteSpaceSet.contains c.toNat

/- A text without blanks at its ends. -/
def trim (cs : List Char) : List Char :=
  ((cs.dropWhile isBlank).reverse.dropWhile isBlank).reverse

end Unicode

end ManifestRecipes
