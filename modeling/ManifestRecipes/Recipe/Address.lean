import ManifestRecipes.Pattern
import ManifestRecipes.Recipe.Visit

/-
  Network addresses that are written into a document.

  An address is four numbers up to 255, joined by dots, and
  not part of a longer word.

  Key definitions include:
    * `Address.pattern`
    * `Address.find`
-/

namespace ManifestRecipes

namespace Address

def between (first last : Char) : Pattern :=
  .oneOf (.range first.toNat last.toNat)

def literal (c : Char) : Pattern :=
  .oneOf (.single c.toNat)

def digit : Pattern :=
  .oneOf Unicode.Word.digits

/- Patterns one after another. -/
def inSequence (ps : List Pattern) : Pattern :=
  ps.foldr .sequence .empty

/- A number from 0 to 255 without leading zeros. -/
def octet : Pattern :=
  .choice (inSequence [literal '2', literal '5', between '0' '5']) <|
  .choice (inSequence [literal '2', between '0' '4', digit]) <|
  .choice (inSequence [literal '1', digit, digit]) <|
  inSequence [.repeated (between '1' '9') 0 (some 1), digit]

/- The beginning or end of a word. -/
def wordEdge : Pattern :=
  .assertion (.word Unicode.Word.characters .edge)

/- An address. -/
def pattern : Pattern :=
  inSequence
    [wordEdge, .repeated (inSequence [octet, literal '.']) 3 (some 3),
     octet, wordEdge]

/- What is said about a text with an address in it. -/
def message? (text : String) : Option String :=
  if pattern.occursIn text.toList then some "hardcoded IP" else none

/- Find the scalars with an address in them. -/
def find (t : Tree) : Visit :=
  let scalars := t.nodesWhere fun c => c.node.scalar?.isSome
  Visit.found
    (Findings.ofNodes scalars fun c => c.node.text?.bind message?)

end Address

end ManifestRecipes
