import ManifestRecipes.Cursor
import ManifestRecipes.Resource

/-
  The containers of a workload.

  A workload document has a pod spec at a place that its kind
  determines.  The pod spec lists containers, and a container
  has an image and resources.

  Key definitions include:
    * `Workload.podSpecChain?`
    * `Workload.isPodSpec`
    * `Workload.isContainer`
    * `Workload.containerOf?`
    * `Workload.isImage`
    * `Workload.isQuantity`
-/

namespace ManifestRecipes

/- The two bounds on a container's use of a resource. -/
inductive ResourceBound where
  | limits
  | requests
deriving DecidableEq, Repr

/- The resources of a container. -/
inductive ResourceKind where
  | cpu
  | memory
deriving DecidableEq, Repr

def ResourceBound.key : ResourceBound → String
  | .limits => "limits"
  | .requests => "requests"

def ResourceKind.key : ResourceKind → String
  | .cpu => "cpu"
  | .memory => "memory"

namespace Workload

------------------------------------------------------------
-- Pod Specs
------------------------------------------------------------

/- Where the documents of a kind have their pod spec. -/
def podSpecChain? (kind : String) : Option (List String) :=
  if kind = "Pod" then some ["spec"]
  else if kind = "CronJob" then
    some ["spec", "jobTemplate", "spec", "template", "spec"]
  else if kind ∈
      ["Deployment", "StatefulSet", "DaemonSet", "ReplicaSet",
       "ReplicationController", "Job"] then
    some ["spec", "template", "spec"]
  else none

def rootKind? (c : Cursor) : Option String :=
  c.root.textAt? "kind"

/- The names that lead to a node, if no sequence is on the way. -/
def fieldChain? (c : Cursor) : Option (List String) :=
  c.path.mapM Path.Element.fieldName?

/- The pod spec of a workload. -/
def isPodSpec (c : Cursor) : Bool :=
  c.node.isMapping &&
    match rootKind? c, fieldChain? c with
    | some kind, some chain => podSpecChain? kind = some chain
    | _, _ => false

------------------------------------------------------------
-- Containers
------------------------------------------------------------

def listsContainers (withInit : Bool) (key? : Option String) : Bool :=
  key? = some "containers" ||
    (withInit && key? = some "initContainers")

/- A list of containers; those that initialize count on demand. -/
def isContainerList (withInit : Bool) (c : Cursor) : Bool :=
  listsContainers withInit c.key? && c.node.isSequence &&
    c.parent?.any isPodSpec

def isItem (c : Cursor) : Bool :=
  match c.element? with
  | some (.index _) => true
  | _ => false

/- A container. -/
def isContainer (withInit : Bool) (c : Cursor) : Bool :=
  isItem c && c.node.isMapping &&
    c.parent?.any (isContainerList withInit)

/- The container that a node is or lies in. -/
def containerOf? (withInit : Bool) (c : Cursor) : Option Cursor :=
  (c :: c.ancestors).find? (isContainer withInit)

/- A node that is or lies in a container. -/
def inContainer (c : Cursor) : Bool :=
  (containerOf? true c).isSome

------------------------------------------------------------
-- Parts of Containers
------------------------------------------------------------

/- The image of a container. -/
def isImage (withInit : Bool) (c : Cursor) : Bool :=
  c.key? = some "image" && c.node.text?.isSome &&
    c.parent?.any (isContainer withInit)

def isResources (c : Cursor) : Bool :=
  c.key? = some "resources" && c.node.isMapping &&
    c.parent?.any (isContainer true)

/- The bounds of one sort in the resources of a container. -/
def isBound (bound : ResourceBound) (c : Cursor) : Bool :=
  c.key? = some bound.key && c.parent?.any isResources

/- A quantity of a resource of a container. -/
def isQuantity
    (bound : ResourceBound)
    (kind : ResourceKind)
    (c : Cursor) : Bool :=
  c.key? = some kind.key && c.node.text?.isSome &&
    c.parent?.any (isBound bound)

end Workload

end ManifestRecipes
