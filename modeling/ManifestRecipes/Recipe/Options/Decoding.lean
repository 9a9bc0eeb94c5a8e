import ManifestRecipes.Binary64.Notation
import ManifestRecipes.Recipe.Options.Fields
import ManifestRecipes.Unicode.Letter

/-
  Decoding the fields of a configuration.

  Key definitions include:
    * `Fields.text?`
    * `Fields.optionalText?`
    * `Fields.flag?`
    * `Fields.choice?`
    * `Fields.textOrNumber?`
    * `Fields.texts?`
    * `Fields.optionalTexts?`
-/

namespace ManifestRecipes

namespace Fields

------------------------------------------------------------
-- Texts
------------------------------------------------------------

def textOf? : Yaml.Value → Option String
  | .string s => some s
  | _ => none

/- A text that must be given. -/
def text? (name : String) (fields : Fields) : Option String :=
  (Mapping.get? name fields).bind textOf?

/- A value that may be missing or null. -/
def present? (name : String) (fields : Fields) : Option Yaml.Value :=
  match Mapping.get? name fields with
  | some .null => none
  | v? => v?

/- A text that may be missing or null. -/
def optionalText? (name : String) (fields : Fields) :
    Option (Option String) :=
  match present? name fields with
  | some v => (textOf? v).map some
  | none => some none

/- A truth value, false if it is missing. -/
def flag? (name : String) (fields : Fields) : Option Bool :=
  match Mapping.get? name fields with
  | some (.bool b) => some b
  | some _ => none
  | none => some false

------------------------------------------------------------
-- Choices
------------------------------------------------------------

/- The alternative that a text or a number names. -/
def alternative?
    {α : Type}
    (alternatives : List (String × α)) : Yaml.Value → Option α
  | .string s => alternatives.lookup s
  | .int i =>
      if 0 ≤ i then alternatives[i.toNat]?.map Prod.snd else none
  | _ => none

/- Values that say nothing. -/
def isNothing : Yaml.Value → Bool
  | .null => true
  | .mapping es => es.isEmpty
  | _ => false

/- One of some alternatives, as a text or as the only key of a mapping. -/
def choice?
    {α : Type}
    (alternatives : List (String × α))
    (name : String)
    (fields : Fields) : Option α :=
  match Mapping.get? name fields with
  | some (.string s) => alternatives.lookup s
  | some (.mapping [(k, v)]) =>
      if isNothing v then alternative? alternatives k else none
  | _ => none

------------------------------------------------------------
-- Numbers
------------------------------------------------------------

/- Numbers are written out without exponents. -/
def numberNotation : NumberNotation where
  positional _ := true
  wholePoint := false
  plusSign := false
  tieUp := false
  nan := "NaN"
  infinite := "inf"

/- The text of a text or number; integers beyond 63 bits are rounded. -/
def numberText? : Yaml.Value → Option String
  | .string s => some s
  | .int i =>
      if Digits.inSigned 64 i then some (Digits.textInt i)
      else some (numberNotation.render (Binary64.ofInt i))
  | .float f => some (numberNotation.render f)
  | _ => none

/- A text or number that must be given. -/
def textOrNumber? (name : String) (fields : Fields) :
    Option String :=
  (Mapping.get? name fields).bind numberText?

------------------------------------------------------------
-- Lists
------------------------------------------------------------

/- The parts of a text between commas. -/
def commaParts : List Char → List (List Char)
  | [] => [[]]
  | c :: cs =>
      match commaParts cs with
      | [] => [[c]]
      | part :: parts =>
          if c = ',' then [] :: part :: parts
          else (c :: part) :: parts

/- The items of a text between commas; the empty text is one item. -/
def commaItems (text : String) : List String :=
  if text = "" then [""]
  else
    (((commaParts text.toList).map Unicode.trim).filter
      (!·.isEmpty)).map String.ofList

/- The texts of a list, or of a text with commas. -/
def textsOf? : Yaml.Value → Option (List String)
  | .sequence xs => xs.mapM textOf?
  | .string s => some (commaItems s)
  | _ => none

/- Texts that must be given; there may be none of them. -/
def texts? (name : String) (fields : Fields) :
    Option (List String) :=
  (Mapping.get? name fields).bind textsOf?

/- Texts that may be missing, but not none. -/
def optionalTexts? (name : String) (fields : Fields) :
    Option (Option (List String)) :=
  match present? name fields with
  | some v => do
      let xs ← textsOf? v
      if xs.isEmpty then none else some (some xs)
  | none => some none

end Fields

end ManifestRecipes
