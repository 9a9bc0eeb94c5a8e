import ManifestRecipes.Json.Number
import ManifestRecipes.Tree

/-
  The identifying parts of a resource document.

  They are read from the root of the document.  A part that
  is missing or of another shape is empty.

  Key definitions include:
    * `Resource`
    * `Resource.ofTree`
    * `Resource.toJson`
-/

namespace ManifestRecipes

/- The metadata of a resource. -/
structure Metadata where
  name? : Option String
  namespaceName? : Option String
  labels : Mapping String
  annotations : Mapping String
deriving DecidableEq, Repr

/- What identifies a resource. -/
structure Resource where
  apiVersion : String
  kind : String
  metadata : Metadata
deriving DecidableEq, Repr

namespace Tree

/- The text of the scalar under a key, unless it is null. -/
def textAt? (t : Tree) (key : String) : Option String :=
  (t.get? key).bind text?

/- The entries of a mapping whose values have a text. -/
def texts (t : Tree) : Mapping String :=
  match t with
  | .mapping es =>
      es.filterMap fun (k, v) => v.text?.map fun s => (k, s)
  | _ => []

/- The entries with a text in the mapping under a key. -/
def textsAt (t : Tree) (key : String) : Mapping String :=
  match t.get? key with
  | some m => m.texts
  | none => []

end Tree

/- The metadata of a document. -/
def Metadata.ofTree (root : Tree) : Metadata :=
  let m := (root.get? "metadata").getD Tree.null
  ⟨m.textAt? "name", m.textAt? "namespace",
    m.textsAt "labels", m.textsAt "annotations"⟩

namespace Resource

/- The resource of a document. -/
def ofTree (root : Tree) : Resource :=
  ⟨(root.textAt? "apiVersion").getD "",
    (root.textAt? "kind").getD "",
    Metadata.ofTree root⟩

def label? (r : Resource) (key : String) : Option String :=
  Mapping.get? key r.metadata.labels

def annotation? (r : Resource) (key : String) : Option String :=
  Mapping.get? key r.metadata.annotations

/- The resource is of a kind; where none is given, every kind will do. -/
def isKind (r : Resource) (kind? : Option String) : Bool :=
  kind?.all (r.kind = ·)

/- The resource is of a version; where none is given, every one will do. -/
def isVersion (r : Resource) (version? : Option String) : Bool :=
  version?.all (r.apiVersion = ·)

def textsJson (m : Mapping String) : Json :=
  .object (m.map fun (k, s) => (k, .string s))

/- A member for a text that may be missing. -/
def optionalMember (key : String) (s? : Option String) :
    List (String × Json) :=
  s?.toList.map fun s => (key, .string s)

/- The resource as a JSON object. -/
def toJson (r : Resource) : Json :=
  let m := r.metadata
  .object
    [("apiVersion", .string r.apiVersion),
     ("kind", .string r.kind),
     ("metadata", .object
       (optionalMember "name" m.name? ++
         optionalMember "namespace" m.namespaceName? ++
           [("labels", textsJson m.labels),
            ("annotations", textsJson m.annotations)]))]

end Resource

end ManifestRecipes
