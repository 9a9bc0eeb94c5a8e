import ManifestRecipes.Pattern.Reading
import ManifestRecipes.Recipe.Visit
import ManifestRecipes.Resource
import ManifestRecipes.Resource.Labelling

/-
  Recipes about the version and the metadata of resources.

  Key definitions include:
    * `VersionChange`
    * `ValuePattern`
    * `AnnotationSearch`
    * `EntryCheck`
-/

namespace ManifestRecipes

------------------------------------------------------------
-- Versions
------------------------------------------------------------

/- A version of resources and the one that replaces it. -/
structure VersionChange where
  old : String
  new : String
deriving DecidableEq, Repr

namespace VersionChange

/- The version of a resource. -/
def path : Path :=
  [.field "apiVersion"]

def visit (r : VersionChange) (t : Tree) : Visit :=
  if t.textAt? "apiVersion" = some r.old then
    Visit.rewritten (t.rewriteScalars? [⟨path, r.new⟩])
  else Visit.unchanged

end VersionChange

------------------------------------------------------------
-- Values
------------------------------------------------------------

/- A pattern for whole values, with its text. -/
structure ValuePattern where
  source : String
  pattern : Pattern

namespace ValuePattern

def read? (source : String) : Option ValuePattern :=
  (Pattern.readAnchored? source).map (ValuePattern.mk source)

def accepts (p : ValuePattern) (value : String) : Bool :=
  p.pattern.occursIn value.toList

def acceptsNode (p : ValuePattern) (t : Tree) : Bool :=
  t.text?.any p.accepts

end ValuePattern

------------------------------------------------------------
-- Annotations
------------------------------------------------------------

/- An annotation to be found, if its value matches. -/
structure AnnotationSearch where
  name : String
  value? : Option ValuePattern

namespace AnnotationSearch

/- What is said about an annotation of the name. -/
def message? (r : AnnotationSearch) (t : Tree) : Option String :=
  match r.value? with
  | none => some ("found:" ++ r.name)
  | some p =>
      if p.acceptsNode t then some ("found:" ++ p.source) else none

def visit (r : AnnotationSearch) (t : Tree) : Visit :=
  let entries :=
    t.nodesWhere fun c =>
      Labelling.isEntry .annotations c && c.key? = some r.name
  Visit.found (Findings.ofNodes entries fun c => r.message? c.node)

end AnnotationSearch

------------------------------------------------------------
-- Required Entries
------------------------------------------------------------

/- An entry that metadata must have, or whose value must match. -/
structure EntryCheck where
  part : Labelling.Section
  name : String
  value? : Option ValuePattern

namespace EntryCheck

/- The entry of a metadata block. -/
def entry? (r : EntryCheck) (c : Cursor) : Option Cursor :=
  (c.field? r.part.key).bind (·.field? r.name)

/-
  What is said about a metadata block.  With a pattern, a
  missing entry is passed over.
-/
def finding? (r : EntryCheck) (c : Cursor) : Option Finding :=
  match r.entry? c, r.value? with
  | none, none => some ⟨c.path, "missing:" ++ r.name⟩
  | some entry, some p =>
      if p.acceptsNode entry.node then none
      else some ⟨entry.path, "invalid:" ++ p.source⟩
  | _, _ => none

/- Check the metadata blocks. -/
def visit (r : EntryCheck) (t : Tree) : Visit :=
  Visit.found <|
    Findings.ofList <|
      (t.nodesWhere Labelling.isMetadata).filterMap r.finding?

end EntryCheck

end ManifestRecipes
