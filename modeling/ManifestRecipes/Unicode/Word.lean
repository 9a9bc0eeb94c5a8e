import ManifestRecipes.Unicode.Category
import ManifestRecipes.Unicode.CodeSet
import ManifestRecipes.Unicode.Property

/-
  Digits, blanks and word characters.

  Each class has its Unicode extent and its ASCII part.

  Key definitions include:
    * `Word.digits`
    * `Word.blanks`
    * `Word.characters`
-/

namespace ManifestRecipes

namespace Unicode

namespace Word

/- Decimal digits of all scripts. -/
def digits : CodeSet :=
  .table Category.decimalNumberSet

/- Blanks. -/
def blanks : CodeSet :=
  .table Property.whiteSpaceSet

/- Letters, marks, digits, connectors and joiners. -/
def characters : CodeSet :=
  .unions
    [.table Property.alphabeticSet,
     .table Category.nonspacingMarkSet,
     .table Category.spacingMarkSet,
     .table Category.enclosingMarkSet,
     .table Category.decimalNumberSet,
     .table Category.connectorPunctuationSet,
     .table Property.joinControlSet]

def asciiDigits : CodeSet :=
  .range 48 57

def asciiBlanks : CodeSet :=
  .unions [.range 9 13, .single 32]

def asciiCharacters : CodeSet :=
  .unions [asciiDigits, .range 65 90, .single 95, .range 97 122]

end Word

end Unicode

end ManifestRecipes
