import ManifestRecipes.Unicode.Category
import ManifestRecipes.Unicode.CodeSet
import ManifestRecipes.Unicode.Property
import ManifestRecipes.Unicode.Script

/-
  Looking up sets of code points by name.

  A query names a property, a category or a script, or it
  gives the value of a property.  Case, spaces, hyphens and
  underscores in names do not matter, nor does a leading
  "is".

  Key definitions include:
    * `Query`
    * `Query.normalize`
    * `Query.set?`
-/

namespace ManifestRecipes

namespace Unicode

/- A name, or a property with its value. -/
inductive Query where
  | named (name : String)
  | valued (property value : String)
deriving DecidableEq, Repr

namespace Query

------------------------------------------------------------
-- Names
------------------------------------------------------------

/- Characters that are left out of names. -/
def isIgnored (c : Char) : Bool :=
  c = ' ' || c = '_' || c = '-' || 128 ≤ c.toNat

/- A name in lower case without the ignored characters. -/
def plain (cs : List Char) : List Char :=
  (cs.filter (!isIgnored ·)).map Char.toLower

/-
  The form in which names are looked up.  What is left of
  "isc" keeps its "is".
-/
def normalize (name : String) : String :=
  String.ofList <|
    match name.toList with
    | i :: s :: rest =>
        if i.toLower = 'i' && s.toLower = 's' then
          if plain rest = ['c'] then ['i', 's', 'c'] else plain rest
        else plain (i :: s :: rest)
    | cs => plain cs

------------------------------------------------------------
-- Categories
------------------------------------------------------------

/- The groups of categories with their names. -/
def groups : List (List String × List Category) :=
  [(["l", "letter"],
      [.uppercaseLetter, .lowercaseLetter, .titlecaseLetter,
       .modifierLetter, .otherLetter]),
   (["lc", "casedletter"],
      [.uppercaseLetter, .lowercaseLetter, .titlecaseLetter]),
   (["m", "mark", "combiningmark"],
      [.nonspacingMark, .spacingMark, .enclosingMark]),
   (["n", "number"],
      [.decimalNumber, .letterNumber, .otherNumber]),
   (["p", "punctuation", "punct"],
      [.connectorPunctuation, .dashPunctuation, .openPunctuation,
       .closePunctuation, .initialPunctuation, .finalPunctuation,
       .otherPunctuation]),
   (["s", "symbol"],
      [.mathSymbol, .currencySymbol, .modifierSymbol, .otherSymbol]),
   (["z", "separator"],
      [.spaceSeparator, .lineSeparator, .paragraphSeparator]),
   (["c", "other"],
      [.control, .format, .privateUse, .unassigned])]

/- The categories that a name stands for; surrogates are no characters. -/
def categories? (name : String) : Option (List Category) :=
  match groups.find? fun g => g.1.contains name with
  | some g => some g.2
  | none =>
      ((Category.all.find? fun c => c.names.contains name).filter
        (· ≠ .surrogate)).map ([·])

/- The set of a category, a group of them, or one of three further names. -/
def categorySet? (name : String) : Option CodeSet :=
  if name = "any" then some .everything
  else if name = "ascii" then some (.range 0 127)
  else if name = "assigned" then
    some (.complement (.table Category.unassignedSet))
  else
    (categories? name).map fun cs =>
      .unions (cs.map fun c => .table c.set)

------------------------------------------------------------
-- Queries
------------------------------------------------------------

def script? (name : String) : Option Script :=
  Script.all.find? fun s => s.names.contains name

def property? (name : String) : Option Property :=
  Property.all.find? fun p => p.names.contains name

/- The set of a name: of a property, a category or a script. -/
def namedSet? (name : String) : Option CodeSet :=
  match property? name with
  | some p => some (.table p.set)
  | none =>
      match categorySet? name with
      | some s => some s
      | none => (script? name).map fun s => .table s.set

/- The set of a value of a property. -/
def valuedSet? (property value : String) : Option CodeSet :=
  if property ∈ ["gc", "generalcategory"] then
    categorySet? value
  else if property ∈ ["sc", "script"] then
    (script? value).map fun s => .table s.set
  else if property ∈ ["scx", "scriptextensions"] then
    (script? value).map Script.users
  else none

/- The set that a query describes. -/
def set? : Query → Option CodeSet
  | .named name => namedSet? (normalize name)
  | .valued property value =>
      valuedSet? (normalize property) (normalize value)

end Query

end Unicode

end ManifestRecipes
