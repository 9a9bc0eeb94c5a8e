import ManifestRecipes.Tree
import ManifestRecipes.Unicode.Letter
import ManifestRecipes.Yaml.Layout
import ManifestRecipes.Yaml.Value.Resolve

/-
  Trees and YAML.

  Reading makes every key a text and drops tags; numbers keep
  the text in which YAML writes them.  Writing reads the text
  of a scalar by its kind; text that does not fit the kind is
  written as a string.

  Key definitions include:
    * `Tree.ofYaml`
    * `Tree.toYaml`
    * `Tree.keyText`
    * `Tree.readYaml`
    * `Tree.readYamlAll`
    * `Tree.yamlText`
-/

namespace ManifestRecipes

------------------------------------------------------------
-- Reading
------------------------------------------------------------

namespace Scalar

/- The text of a truth value. -/
def boolText (b : Bool) : String :=
  if b then "true" else "false"

/- The scalar of a value; collections have none and give null. -/
def ofYaml : Yaml.Value → Scalar
  | .bool b => ⟨boolText b, .bool⟩
  | .int i => ⟨Digits.textInt i, .int⟩
  | .float f => ⟨Yaml.numberNotation.render f, .float⟩
  | .string s => string s
  | _ => null

end Scalar

namespace Tree

/- A text without blanks at its end. -/
def trimEnd (cs : List Char) : List Char :=
  (cs.reverse.dropWhile Unicode.isBlank).reverse

/- The text of a key.  A collection stands as it is written. -/
def keyText : Yaml.Value → String
  | .string s => s
  | .null => "null"
  | .tagged _ v => keyText v
  | .sequence xs =>
      String.ofList (trimEnd (Yaml.Value.sequence xs).write)
  | .mapping es =>
      String.ofList (trimEnd (Yaml.Value.mapping es).write)
  | v => (Scalar.ofYaml v).text

mutual

/- The tree of a value. -/
def ofYaml : Yaml.Value → Tree
  | .mapping es => .mapping (Mapping.ofList (entriesOfYaml es))
  | .sequence xs => .sequence (itemsOfYaml xs)
  | .tagged _ v => ofYaml v
  | v => .scalar (Scalar.ofYaml v)

def itemsOfYaml : List Yaml.Value → List Tree
  | [] => []
  | x :: xs => ofYaml x :: itemsOfYaml xs

/- The entries of a mapping, with keys as text. -/
def entriesOfYaml :
    List (Yaml.Value × Yaml.Value) → List (String × Tree)
  | [] => []
  | (k, v) :: es => (keyText k, ofYaml v) :: entriesOfYaml es

end

/- Read the only document of a text. -/
def readYaml (text : String) : Except Yaml.Fault Tree :=
  (Yaml.Value.onlyOfText text).map ofYaml

/- Read all documents of a text. -/
def readYamlAll (text : String) : Except Yaml.Fault (List Tree) :=
  (Yaml.Value.ofText text).map (List.map ofYaml)

end Tree

------------------------------------------------------------
-- Writing
------------------------------------------------------------

namespace Scalar

/- The value of a scalar. -/
def toYaml (s : Scalar) : Yaml.Value :=
  let cs := s.text.toList
  match s.kind with
  | .null => .null
  | .bool =>
      let lower := cs.map Char.toLower
      if lower = "true".toList then .bool true
      else if lower = "false".toList then .bool false
      else .string s.text
  | .int =>
      match Digits.readSigned64? cs with
      | some i => .int i
      | none =>
          match Digits.readUnsigned64? cs with
          | some n => .int n
          | none => .string s.text
  | .float =>
      match Binary64.read? cs with
      | some f => .float f
      | none => .string s.text
  | .string => .string s.text

end Scalar

namespace Tree

mutual

/- The value of a tree. -/
def toYaml : Tree → Yaml.Value
  | .scalar s => s.toYaml
  | .sequence xs => .sequence (itemsToYaml xs)
  | .mapping es => .mapping (entriesToYaml es)

def itemsToYaml : List Tree → List Yaml.Value
  | [] => []
  | x :: xs => toYaml x :: itemsToYaml xs

def entriesToYaml :
    List (String × Tree) → List (Yaml.Value × Yaml.Value)
  | [] => []
  | (k, v) :: es => (.string k, toYaml v) :: entriesToYaml es

end

/- A tree as a YAML document. -/
def yamlText (t : Tree) : String :=
  t.toYaml.text

end Tree

end ManifestRecipes
