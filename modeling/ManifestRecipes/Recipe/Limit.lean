import ManifestRecipes.Quantity.Ratio
import ManifestRecipes.Recipe.Visit
import ManifestRecipes.Resource.Workload

/-
  Recipes about the quantities of containers.

  Quantities above a limit are found or lowered to it, and
  containers are found whose limit is too large a multiple of
  the request.  A quantity that cannot be read is a fault.

  Key definitions include:
    * `QuantityLimit`
    * `QuantityLimit.exceeding`
    * `QuantityLimit.cap`
    * `QuantityLimit.find`
    * `RatioLimit`
    * `RatioLimit.find`
-/

namespace ManifestRecipes

------------------------------------------------------------
-- Limits of Quantities
------------------------------------------------------------

/- A limit, with its text, for a quantity of the containers. -/
structure QuantityLimit where
  bound : ResourceBound
  kind : ResourceKind
  source : String
  limit : Quantity
deriving DecidableEq, Repr

namespace QuantityLimit

/- The quantity that is written at a node. -/
def quantityAt (c : Cursor) :
    Except Quantity.Fault (Cursor × Quantity) := do
  let q ← Quantity.read (c.node.text?.getD "")
  .ok (c, q)

/- The quantities of a document to which a limit applies. -/
def quantities (l : QuantityLimit) (t : Tree) :
    Except Quantity.Fault (List (Cursor × Quantity)) :=
  (t.nodesWhere (Workload.isQuantity l.bound l.kind)).mapM quantityAt

/- The quantities of a document that are above the limit. -/
def exceeding (l : QuantityLimit) (t : Tree) :
    Except Quantity.Fault (List (Cursor × Quantity)) := do
  let all ← l.quantities t
  .ok (all.filter fun e => e.2.exceeds l.limit)

/- The edit that lowers a quantity to the limit, in its own unit. -/
def capEdit (l : QuantityLimit) (e : Cursor × Quantity) : Edit :=
  ⟨e.1.path, (l.limit.inUnit e.2.unit).text⟩

/- Lower the quantities above the limit. -/
def cap (l : QuantityLimit) (t : Tree) :
    Except Quantity.Fault Visit := do
  let above ← l.exceeding t
  .ok (Visit.rewritten (t.rewriteScalars? (above.map l.capEdit)))

/- What is said about quantities above the limit. -/
def message (l : QuantityLimit) : String :=
  "exceeds maximum of " ++ l.source

/- Find the quantities above the limit. -/
def find (l : QuantityLimit) (t : Tree) :
    Except Quantity.Fault Visit := do
  let above ← l.exceeding t
  .ok (Visit.found
    (Findings.ofNodes (above.map Prod.fst) fun _ => some l.message))

end QuantityLimit

------------------------------------------------------------
-- Limits of Ratios
------------------------------------------------------------

/- How many times its request a limit may be, with the text of the ratio. -/
structure RatioLimit where
  kind : ResourceKind
  source : String
  ratio : Ratio
deriving DecidableEq, Repr

namespace RatioLimit

/- The text of a bound in the resources of a container. -/
def boundText?
    (l : RatioLimit)
    (bound : ResourceBound)
    (resources : Tree) : Option String :=
  (resources.get? bound.key).bind (·.textAt? l.kind.key)

/- Resources whose limit is too large for their request. -/
def isExceeded (l : RatioLimit) (resources : Tree) :
    Except Quantity.Fault Bool :=
  match l.boundText? .limits resources,
      l.boundText? .requests resources with
  | some limit, some request => do
      let limit ← Quantity.read limit
      let request ← Quantity.read request
      .ok (l.ratio.exceeded limit request)
  | _, _ => .ok false

/- What is said about resources beyond the ratio. -/
def message (l : RatioLimit) : String :=
  "exceeds max " ++ l.kind.key ++ " limits/requests ratio of " ++
    l.source

/- Find the resources beyond the ratio. -/
def find (l : RatioLimit) (t : Tree) :
    Except Quantity.Fault Visit := do
  let exceeded ←
    (t.nodesWhere Workload.isResources).filterM fun c =>
      l.isExceeded c.node
  .ok (Visit.found
    (Findings.ofNodes exceeded fun _ => some l.message))

end RatioLimit

end ManifestRecipes
