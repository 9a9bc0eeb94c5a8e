import ManifestRecipes.Image.Glob
import ManifestRecipes.Image.Name

/-
  Patterns for image references.

  A pattern has a glob for the repository, the image and the
  tag.  A glob that is absent, or a lone star, accepts
  everything; digests do not matter.

  Key definitions include:
    * `ImagePattern`
    * `ImagePattern.accepts`
    * `ImagePattern.text`
-/

namespace ManifestRecipes

/- Globs for the parts of an image reference. -/
structure ImagePattern where
  repository? : Option String
  image? : Option String
  tag? : Option String
deriving DecidableEq, Repr

namespace ImagePattern

/- A glob accepts a part; an absent part counts as empty. -/
def acceptsPart (glob? part? : Option String) : Bool :=
  match glob? with
  | none => true
  | some g =>
      g = "*" || Glob.accepts g.toList (part?.getD "").toList

/- A pattern accepts a reference if its globs accept the parts. -/
def accepts (p : ImagePattern) (n : ImageName) : Bool :=
  acceptsPart p.repository? n.repository? &&
    acceptsPart p.image? (some n.image) &&
      acceptsPart p.tag? n.tag?

/- A pattern as it is written, with stars for absent globs. -/
def text (p : ImagePattern) : String :=
  p.repository?.getD "*" ++ "/" ++ p.image?.getD "*" ++ ":" ++
    p.tag?.getD "*"

end ImagePattern

end ManifestRecipes
