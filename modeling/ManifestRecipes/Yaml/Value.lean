import ManifestRecipes.Binary64

/-
  The values that YAML documents stand for.

  Key definitions include:
    * `Yaml.Value`
    * `Yaml.Value.same`
    * `Yaml.Value.untagged`
-/

namespace ManifestRecipes

namespace Yaml

/- A value; the keys of a mapping are values of any kind. -/
inductive Value where
  | null
  | bool (b : Bool)
  | int (i : Int)
  | float (f : Binary64)
  | string (s : String)
  | sequence (items : List Value)
  | mapping (entries : List (Value × Value))
  | tagged (tag : String) (v : Value)

namespace Value

mutual

/-
  Values that count as one key.  Entries of mappings may come
  in any order, and the two zeros are the same.
-/
def same : Value → Value → Bool
  | .null, .null => true
  | .bool a, .bool b => a = b
  | .int i, .int j => i = j
  | .float x, .float y => x.sameValue y
  | .string s, .string t => s = t
  | .sequence xs, .sequence ys => sameItems xs ys
  | .mapping xs, .mapping ys =>
      xs.length = ys.length && sameEntries xs ys
  | .tagged t v, .tagged u w => t = u && same v w
  | _, _ => false

/- The same items in the same order. -/
def sameItems : List Value → List Value → Bool
  | [], [] => true
  | x :: xs, y :: ys => same x y && sameItems xs ys
  | _, _ => false

/- Each entry is among the others. -/
def sameEntries :
    List (Value × Value) → List (Value × Value) → Bool
  | [], _ => true
  | (k, v) :: es, ys =>
      ys.any (fun e => same k e.1 && same v e.2) &&
        sameEntries es ys

end

/- No key appears twice. -/
def noRepeatedKeys : List (Value × Value) → Bool
  | [] => true
  | (k, _) :: es =>
      !es.any (fun e => same k e.1) && noRepeatedKeys es

/- The value under a tag. -/
def untagged : Value → Value
  | .tagged _ v => untagged v
  | v => v

end Value

end Yaml

end ManifestRecipes
