import ManifestRecipes.Image.Pattern
import ManifestRecipes.Recipe.Visit
import ManifestRecipes.Resource.Workload

/-
  Recipes about the images of containers.

  Key definitions include:
    * `ContainerImage.all`
    * `ContainerImage.find`
    * `ContainerImage.findMissingDigest`
    * `DisallowedTags`
    * `ImageUpdate`
    * `ImageUpdate.visit`
-/

namespace ManifestRecipes

namespace ContainerImage

def nameAt (c : Cursor) : ImageName :=
  ImageName.ofText (c.node.text?.getD "")

/- The nodes with images, in order. -/
def all (withInit : Bool) (t : Tree) : List Cursor :=
  t.nodesWhere (Workload.isImage withInit)

/- The nodes with images that a pattern accepts. -/
def accepted
    (withInit : Bool)
    (p : ImagePattern)
    (t : Tree) : List Cursor :=
  (all withInit t).filter fun c => p.accepts (nameAt c)

/- Find the images that a pattern accepts. -/
def find (p : ImagePattern) (t : Tree) : Visit :=
  Visit.found
    (Findings.ofNodes (accepted true p t) fun _ => some p.text)

/- Find the images without a digest. -/
def findMissingDigest (withInit : Bool) (t : Tree) : Visit :=
  Visit.found <|
    Findings.ofNodes (all withInit t) fun c =>
      if (nameAt c).hasDigest then none else some "missing digest"

end ContainerImage

------------------------------------------------------------
-- Tags
------------------------------------------------------------

/- Tags that images must not have. -/
structure DisallowedTags where
  tags : List String
  withInit : Bool
deriving DecidableEq, Repr

namespace DisallowedTags

/- What is said about an image; a tag is named as often as it is listed. -/
def message? (r : DisallowedTags) (n : ImageName) : Option String :=
  let found := r.tags.filter fun t => n.tag? = some t
  if found.isEmpty then none
  else some ("disallowed tag: [" ++ ", ".intercalate found ++ "]")

/- Find the images with one of the tags. -/
def visit (r : DisallowedTags) (t : Tree) : Visit :=
  Visit.found <|
    Findings.ofNodes (ContainerImage.all r.withInit t) fun c =>
      r.message? (ContainerImage.nameAt c)

end DisallowedTags

------------------------------------------------------------
-- Updates
------------------------------------------------------------

/- New parts for the images that a pattern accepts. -/
structure ImageUpdate where
  pattern : ImagePattern
  repository? : Option String
  image? : Option String
  tag? : Option String
  withInit : Bool
deriving DecidableEq, Repr

namespace ImageUpdate

/- The reference with the new parts. -/
def apply (r : ImageUpdate) (n : ImageName) : ImageName :=
  let n :=
    match r.repository? with
    | some s => n.withRepository (some s)
    | none => n
  let n :=
    match r.image? with
    | some s => n.withImage s
    | none => n
  match r.tag? with
  | some s => n.withTag (some s)
  | none => n

def edit (r : ImageUpdate) (c : Cursor) : Edit :=
  ⟨c.path, (r.apply (ContainerImage.nameAt c)).text⟩

/- Update the images that the pattern accepts. -/
def visit (r : ImageUpdate) (t : Tree) : Visit :=
  let images := ContainerImage.accepted r.withInit r.pattern t
  Visit.rewritten (t.rewriteScalars? (images.map r.edit))

end ImageUpdate

end ManifestRecipes
