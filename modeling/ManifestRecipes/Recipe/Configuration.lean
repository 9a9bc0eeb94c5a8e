import ManifestRecipes.Expression.Selection
import ManifestRecipes.Merge
import ManifestRecipes.Recipe.Visit
import ManifestRecipes.Resource

/-
  Recipes about a place in a resource.

  Configuration is added at every place that an expression
  selects, or a resource is found in which the expression
  selects nothing.

  Key definitions include:
    * `AddedConfiguration`
    * `AddedConfiguration.visit`
    * `MissingConfiguration`
    * `MissingConfiguration.visit`
-/

namespace ManifestRecipes

/- Entries to be added to resources of a kind, possibly of one version. -/
structure AddedConfiguration where
  version? : Option String
  kind : String
  expression : Expression
  fragment : Mapping Tree
deriving DecidableEq

namespace AddedConfiguration

/- The document is a resource that is to be changed. -/
def applies (r : AddedConfiguration) (t : Tree) : Bool :=
  let resource := Resource.ofTree t
  resource.isKind (some r.kind) && resource.isVersion r.version?

/- Add the entries at every selected place. -/
def visit (r : AddedConfiguration) (t : Tree) : Visit :=
  if r.applies t then
    let merge := Merge.intoCursors r.fragment t (r.expression.select t)
    if merge.changed then Visit.rewritten (some merge.tree)
    else Visit.unchanged
  else Visit.unchanged

end AddedConfiguration

/- A place that resources must have; the kind may be left open. -/
structure MissingConfiguration where
  kind? : Option String
  expression : Expression
deriving DecidableEq

namespace MissingConfiguration

/- The document is a resource that must have the place. -/
def applies (r : MissingConfiguration) (t : Tree) : Bool :=
  let resource := Resource.ofTree t
  match r.kind? with
  | some kind => resource.kind = kind
  | none => resource.kind ≠ ""

/- Find a resource in which nothing is selected. -/
def visit (r : MissingConfiguration) (t : Tree) : Visit :=
  if r.applies t && (r.expression.select t).isEmpty then
    Visit.found
      (Findings.ofRoot ["missing: " ++ r.expression.source])
  else Visit.unchanged

end MissingConfiguration

end ManifestRecipes
