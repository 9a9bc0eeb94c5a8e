import ManifestRecipes.Yaml.Content
import ManifestRecipes.Yaml.Value.Plain

/-
  From documents to values.

  A tag of the core schema converts its scalar, a tag of the
  document's own stays with the value, and every other tag
  makes text of a scalar.  Keys of a mapping differ.

  Key definitions include:
    * `Yaml.Value.ofScalar`
    * `Yaml.Value.ofContent`
    * `Yaml.Value.ofText`
    * `Yaml.Value.onlyOfText`
-/

namespace ManifestRecipes

namespace Yaml

namespace Value

/- The name of a tag that is not of a schema. -/
def ownTag? (tag? : Option String) : Option String :=
  tag?.bind fun t =>
    match t.toList with
    | '!' :: name => some (String.ofList name)
    | _ => none

def underTag (name : String) (v : Value) : Except Fault Value :=
  if name.isEmpty then .error .emptyTag else .ok (.tagged name v)

/- A scalar without a tag: text if it was quoted. -/
def ofUntagged (style : Style) (text : String) : Except Fault Value :=
  if style = .plain then ofPlain text else .ok (.string text)

/- The value that a tag demands, or a fault. -/
def demand : Option Value → Except Fault Value
  | some v => .ok v
  | none => .error .tagMismatch

/- A scalar under a tag of a schema. -/
def ofSchemaTag (tag : String) (text : String) : Except Fault Value :=
  let core := fun name => tag = Tag.coreNamespace ++ name
  if core "bool" then demand ((bool? text).map .bool)
  else if core "int" then do demand (← ofInteger? text.toList)
  else if core "float" then demand ((float? text).map .float)
  else if core "null" then
    demand (if isNullText text then some .null else none)
  else .ok (.string text)

/- The value of a scalar. -/
def ofScalar
    (tag? : Option String)
    (style : Style)
    (text : String) : Except Fault Value :=
  match tag? with
  | none => ofUntagged style text
  | some tag =>
      match ownTag? tag? with
      | some name => do underTag name (← ofUntagged style text)
      | none => ofSchemaTag tag text

/- Put a collection under its own tag, if it has one. -/
def collection
    (covered : Bool)
    (tag? : Option String)
    (v : Value) : Except Fault Value :=
  match ownTag? tag? with
  | some name => if covered then .ok v else underTag name v
  | none => .ok v

mutual

/-
  The value of a document.  The tags of the keys of a tagged
  mapping count for nothing: they are `covered`.
-/
def ofContent (covered : Bool) : Content → Except Fault Value
  | .scalar tag? style text =>
      if covered then ofUntagged style text
      else ofScalar tag? style text
  | .sequence tag? items => do
      collection covered tag? (.sequence (← ofItems items))
  | .mapping tag? entries => do
      let covers := covered || (ownTag? tag?).isSome
      let es ← ofEntries covers entries
      if noRepeatedKeys es then
        collection covered tag? (.mapping es)
      else .error .repeatedKey

/- The values of items. -/
def ofItems : List Content → Except Fault (List Value)
  | [] => .ok []
  | x :: xs => do
      let v ← ofContent false x
      let vs ← ofItems xs
      .ok (v :: vs)

/- The values of entries. -/
def ofEntries
    (covered : Bool) :
    List (Content × Content) → Except Fault (List (Value × Value))
  | [] => .ok []
  | (k, v) :: es => do
      let k ← ofContent covered k
      let v ← ofContent false v
      let es ← ofEntries covered es
      .ok ((k, v) :: es)

end

/- The values of all documents of a text. -/
def ofText (text : String) : Except Fault (List Value) := do
  (← Content.ofText text).mapM (ofContent false)

/- The value of the only document of a text. -/
def onlyOfText (text : String) : Except Fault Value := do
  ofContent false (← Content.onlyOfText text)

end Value

end Yaml

end ManifestRecipes
