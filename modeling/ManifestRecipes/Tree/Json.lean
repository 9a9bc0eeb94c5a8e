import ManifestRecipes.Json.Reading
import ManifestRecipes.Tree

/-
  Trees of JSON values.

  Numbers keep the text in which JSON writes them.

  Key definitions include:
    * `Tree.ofJson`
    * `Tree.readJson?`
-/

namespace ManifestRecipes

namespace Tree

/- The scalar of a value; arrays and objects have none and give null. -/
def scalarOfJson : Json → Scalar
  | .bool b => ⟨if b then "true" else "false", .bool⟩
  | .int i => ⟨Digits.textInt i, .int⟩
  | .float f => ⟨Json.numberNotation.render f, .float⟩
  | .string s => Scalar.string s
  | _ => Scalar.null

mutual

/- The tree of a value. -/
def ofJson : Json → Tree
  | .array xs => .sequence (itemsOfJson xs)
  | .object ms => .mapping (Mapping.ofList (entriesOfJson ms))
  | j => .scalar (scalarOfJson j)

def itemsOfJson : List Json → List Tree
  | [] => []
  | x :: xs => ofJson x :: itemsOfJson xs

def entriesOfJson :
    List (String × Json) → List (String × Tree)
  | [] => []
  | (k, v) :: ms => (k, ofJson v) :: entriesOfJson ms

end

/- Read a text that holds one value. -/
def readJson? (text : String) : Option Tree :=
  (Json.read? text).map ofJson

end Tree

end ManifestRecipes
