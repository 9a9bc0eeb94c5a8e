import ManifestRecipes.Cursor

/-
  Metadata blocks with their labels and annotations.

  A metadata block belongs to the document itself or to a
  template in it.

  Key definitions include:
    * `Labelling.isMetadata`
    * `Labelling.Section`
    * `Labelling.isEntry`
-/

namespace ManifestRecipes

namespace Labelling

/- The parts of a metadata block that hold entries. -/
inductive Section where
  | labels
  | annotations
deriving DecidableEq, Repr

def Section.key : Section → String
  | .labels => "labels"
  | .annotations => "annotations"

/- The document or a template in it. -/
def isLabelled (c : Cursor) : Bool :=
  c.isRoot || c.key? = some "template" ||
    c.key? = some "jobTemplate"

/- A metadata block. -/
def isMetadata (c : Cursor) : Bool :=
  c.key? = some "metadata" && c.node.isMapping &&
    c.parent?.any isLabelled

def isSection (s : Section) (c : Cursor) : Bool :=
  c.key? = some s.key && c.parent?.any isMetadata

/- An entry of a section of a metadata block. -/
def isEntry (s : Section) (c : Cursor) : Bool :=
  c.key?.isSome && c.parent?.any (isSection s)

end Labelling

end ManifestRecipes
