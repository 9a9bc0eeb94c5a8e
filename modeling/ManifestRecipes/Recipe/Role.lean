import ManifestRecipes.Image.Glob
import ManifestRecipes.Recipe.Visit
import ManifestRecipes.Resource

/-
  Recipes about roles.

  A rule is added to the roles whose name a glob accepts,
  unless they have an equal rule.

  Key definitions include:
    * `Rule`
    * `Rule.isEqualTo`
    * `Rule.toTree`
    * `RuleAddition`
    * `RuleAddition.visit`
-/

namespace ManifestRecipes

------------------------------------------------------------
-- Rules
------------------------------------------------------------

/- A rule of a role. -/
structure Rule where
  apiGroups : List String
  resources : List String
  resourceNames? : Option (List String)
  verbs : List String
deriving DecidableEq, Repr

namespace Rule

/- The texts of a list, or of a scalar alone. -/
def textItems (t : Tree) : List String :=
  match t with
  | .sequence xs => xs.filterMap Tree.text?
  | _ => t.text?.toList

def itemsAt (t : Tree) (key : String) : List String :=
  ((t.get? key).map textItems).getD []

def sameMembers (xs ys : List String) : Bool :=
  xs.all ys.contains && ys.all xs.contains

/-
  A node is an equal rule.  Lists are compared by their
  members, and names only if the rule has any.
-/
def isEqualTo (r : Rule) (t : Tree) : Bool :=
  sameMembers (itemsAt t "apiGroups") r.apiGroups &&
    sameMembers (itemsAt t "resources") r.resources &&
      sameMembers (itemsAt t "verbs") r.verbs &&
        r.resourceNames?.all (sameMembers (itemsAt t "resourceNames"))

def listTree (xs : List String) : Tree :=
  .sequence (xs.map Tree.string)

/- A rule as a node. -/
def toTree (r : Rule) : Tree :=
  .mapping <|
    [("apiGroups", listTree r.apiGroups),
     ("resources", listTree r.resources)] ++
    r.resourceNames?.toList.map (fun ns => ("resourceNames", listTree ns)) ++
    [("verbs", listTree r.verbs)]

end Rule

------------------------------------------------------------
-- Additions
------------------------------------------------------------

/- A rule for roles of a kind whose name a glob accepts. -/
structure RuleAddition where
  kind : String
  name : String
  rule : Rule
deriving DecidableEq, Repr

namespace RuleAddition

/- The version of the resources that are roles. -/
def version : String :=
  "rbac.authorization.k8s.io/v1"

/- The document is a role that should have the rule. -/
def applies (r : RuleAddition) (t : Tree) : Bool :=
  let resource := Resource.ofTree t
  resource.isKind (some r.kind) &&
    resource.isVersion (some version) &&
      resource.metadata.name?.any fun n =>
        Glob.accepts r.name.toList n.toList

/- The rules of a role with the new one; a scalar gives way to a list. -/
def extend? (rule : Rule) (t : Tree) : Option Tree :=
  match t with
  | .sequence xs => some (.sequence (xs ++ [rule.toTree]))
  | .scalar _ => some (.sequence [rule.toTree])
  | .mapping _ => none

/- A role has an equal rule. -/
def hasRule (rule : Rule) (rules : Tree) : Bool :=
  match rules with
  | .sequence xs => xs.any rule.isEqualTo
  | _ => false

/- A role with the rule, unless it has one that is equal. -/
def withRule? (rule : Rule) (t : Tree) : Option Tree :=
  match t.get? "rules" with
  | some rules =>
      if hasRule rule rules then none
      else t.replaceAt? [.field "rules"] (extend? rule)
  | none =>
      t.entries?.map fun es =>
        .mapping
          (Mapping.insert "rules" (.sequence [rule.toTree]) es)

/- Add the rule. -/
def visit (r : RuleAddition) (t : Tree) : Visit :=
  if r.applies t then Visit.rewritten (withRule? r.rule t)
  else Visit.unchanged

end RuleAddition

end ManifestRecipes
