import ManifestRecipes.Mapping
import ManifestRecipes.Yaml.Value.Resolve

/-
  The fields of a configuration.

  A configuration names a recipe and gives it fields, in a
  mapping or, in their order, in a list.  In a mapping a
  field may also be named by its number.  What a recipe does
  not know is passed over, but no field is given twice and
  nothing is tagged.

  Key definitions include:
    * `Fields.value?`
    * `Fields.recipeAndRest?`
    * `Fields.ofValue?`
-/

namespace ManifestRecipes

abbrev Fields :=
  Mapping Yaml.Value

namespace Fields

------------------------------------------------------------
-- Untagged Values
------------------------------------------------------------

def isTagged (tag? : Option String) : Bool :=
  (Yaml.Value.ownTag? tag?).isSome

/- The value of a scalar without a tag of its own. -/
def scalar?
    (tag? : Option String)
    (style : Yaml.Style)
    (text : String) : Option Yaml.Value :=
  if isTagged tag? then none
  else (Yaml.Value.ofScalar tag? style text).toOption

mutual

/- The value of a node in which nothing has a tag of its own; keys may be repeated. -/
def value? : Yaml.Content → Option Yaml.Value
  | .scalar tag? style text => scalar? tag? style text
  | .sequence tag? items =>
      if isTagged tag? then none
      else (values? items).map .sequence
  | .mapping tag? entries =>
      if isTagged tag? then none
      else (entryValues? entries).map .mapping

/- The values of items. -/
def values? : List Yaml.Content → Option (List Yaml.Value)
  | [] => some []
  | x :: xs => do
      let v ← value? x
      let vs ← values? xs
      some (v :: vs)

/- The values of entries. -/
def entryValues? :
    List (Yaml.Content × Yaml.Content) →
      Option (List (Yaml.Value × Yaml.Value))
  | [] => some []
  | (k, v) :: es => do
      let k ← value? k
      let v ← value? v
      let es ← entryValues? es
      some ((k, v) :: es)

end

------------------------------------------------------------
-- The Recipe
------------------------------------------------------------

/- The text of a scalar as it is written. -/
def writtenText? : Yaml.Content → Option String
  | .scalar _ _ text => some text
  | _ => none

/- A key that names the recipe. -/
def isRecipeKey : Yaml.Value → Bool
  | .string s => s = "recipe"
  | _ => false

/- The recipe among entries, if it is named, and the values of the others. -/
def splitEntries? :
    List (Yaml.Content × Yaml.Content) →
      Option (Option String × List (Yaml.Value × Yaml.Value))
  | [] => some (none, [])
  | (k, v) :: es => do
      let k ← value? k
      let (recipe?, rest) ← splitEntries? es
      if isRecipeKey k then
        if recipe?.isSome then none
        else do
          let text ← writtenText? v
          some (some text, rest)
      else do
        let v ← value? v
        some (recipe?, (k, v) :: rest)

/- The recipe that a configuration names, and its fields. -/
def recipeAndRest? : Yaml.Content → Option (String × Yaml.Value)
  | .mapping tag? entries => do
      let (recipe?, rest) ← splitEntries? entries
      let recipe ← recipe?
      if isTagged tag? then none else some (recipe, .mapping rest)
  | .sequence tag? (first :: rest) => do
      let recipe ← writtenText? first
      let rest ← values? rest
      if isTagged tag? then none else some (recipe, .sequence rest)
  | _ => none

------------------------------------------------------------
-- Fields
------------------------------------------------------------

/-
  The field that a key names, if any; only texts and numbers
  can name fields.
-/
def name? (names : List String) :
    Yaml.Value → Option (Option String)
  | .string s => some (if s ∈ names then some s else none)
  | .int i => if 0 ≤ i then some names[i.toNat]? else none
  | _ => none

/- The fields among entries. -/
def ofEntries? (names : List String) :
    List (Yaml.Value × Yaml.Value) → Option Fields
  | [] => some []
  | (k, v) :: es => do
      let fields ← ofEntries? names es
      match ← name? names k with
      | some name =>
          if Mapping.contains name fields then none
          else some ((name, v) :: fields)
      | none => some fields

/- The fields of given names. -/
def ofValue? (names : List String) : Yaml.Value → Option Fields
  | .mapping es => ofEntries? names es
  | .sequence xs =>
      if xs.length ≤ names.length then some (names.zip xs) else none
  | _ => none

/- The fields may be left unread. -/
def isUnit : Yaml.Value → Bool
  | .mapping _ => true
  | .sequence xs => xs.isEmpty
  | _ => false

end Fields

end ManifestRecipes
