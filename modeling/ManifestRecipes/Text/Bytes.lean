/-
  The size of texts in bytes.

  Key definitions include:
    * `Bytes.count`
-/

namespace ManifestRecipes

namespace Bytes

/- The number of bytes of a text. -/
def count : List Char → Nat
  | [] => 0
  | c :: cs => c.utf8Size + count cs

end Bytes

end ManifestRecipes
