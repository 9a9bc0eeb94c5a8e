import ManifestRecipes.Expression.Selection
import ManifestRecipes.Recipe.Visit
import ManifestRecipes.Resource

/-
  Recipes about services and ingresses.

  Key definitions include:
    * `Service.externalIps`
    * `Service.findType`
    * `Service.findExternalIps`
    * `ExternalIpUpdate`
    * `Ingress.findUnprotected`
-/

namespace ManifestRecipes

namespace Service

------------------------------------------------------------
-- Types
------------------------------------------------------------

def isService (t : Tree) : Bool :=
  (Resource.ofTree t).isKind (some "Service")

/- The type of a service with a given spec. -/
def typeOf (spec : Tree) : String :=
  (spec.textAt? "type").getD "ClusterIP"

/- Find services of a type. -/
def findType (type : String) (t : Tree) : Visit :=
  match (Cursor.atRoot t).field? "spec" with
  | some spec =>
      if isService t && typeOf spec.node = type then
        Visit.found
          (Findings.ofNodes [spec] fun _ => some ("type:" ++ type))
      else Visit.unchanged
  | none => Visit.unchanged

------------------------------------------------------------
-- External Addresses
------------------------------------------------------------

def externalIpPlaces : Expression :=
  Expression.ofSegments
    [.root, .field "spec", .field "externalIPs", .everyItem]

/- The external addresses of a service. -/
def externalIps (t : Tree) : List Cursor :=
  if isService t then externalIpPlaces.select t else []

/- Find external addresses. -/
def findExternalIps (addresses : List String) (t : Tree) : Visit :=
  Visit.found <|
    Findings.ofNodes (externalIps t) fun c =>
      if c.node.text?.any addresses.contains then some "IP" else none

end Service

/- An external address and the one that replaces it. -/
structure ExternalIpUpdate where
  old : String
  new : String
deriving DecidableEq, Repr

/- Replace the external address. -/
def ExternalIpUpdate.visit (r : ExternalIpUpdate) (t : Tree) : Visit :=
  let found :=
    (Service.externalIps t).filter fun c => c.node.text? = some r.old
  Visit.rewritten
    (t.rewriteScalars? (found.map fun c => ⟨c.path, r.new⟩))

------------------------------------------------------------
-- Ingresses
------------------------------------------------------------

namespace Ingress

def isIngress (t : Tree) : Bool :=
  (Resource.ofTree t).isKind (some "Ingress")

def tlsHostPlaces : Expression :=
  Expression.ofSegments
    [.root, .field "spec", .field "tls", .everyItem, .field "hosts"]

/- The annotation that disallows plain requests. -/
def allowHttp : String :=
  "kubernetes.io/ingress.allow-http"

def hasTls (t : Tree) : Bool :=
  !(tlsHostPlaces.select t).isEmpty

/- Plain requests are disallowed. -/
def disallowsHttp (t : Tree) : Bool :=
  (Resource.ofTree t).annotation? allowHttp = some "false"

/- Find ingresses that are not limited to TLS. -/
def findUnprotected (t : Tree) : Visit :=
  if isIngress t then
    Visit.found <|
      Findings.ofRoot <|
        (if hasTls t then [] else ["missing TLS"]) ++
          (if disallowsHttp t then [] else ["missing disallow http"])
  else Visit.unchanged

end Ingress

end ManifestRecipes
