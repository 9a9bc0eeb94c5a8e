import ManifestRecipes.Recipe.Address
import ManifestRecipes.Recipe.Configuration
import ManifestRecipes.Recipe.ContainerImage
import ManifestRecipes.Recipe.Limit
import ManifestRecipes.Recipe.MetadataEntry
import ManifestRecipes.Recipe.Role
import ManifestRecipes.Recipe.Service

/-
  Recipes: searches and changes that apply to documents.

  Key definitions include:
    * `Recipe`
    * `Recipe.name`
    * `Recipe.visit`
-/

namespace ManifestRecipes

/- The recipes with their options. -/
inductive Recipe where
  | addConfiguration (r : AddedConfiguration)
  | findMissingConfiguration (r : MissingConfiguration)
  | capQuantity (l : QuantityLimit)
  | findQuantity (l : QuantityLimit)
  | findRatio (l : RatioLimit)
  | updateImage (r : ImageUpdate)
  | findImage (p : ImagePattern)
  | findTags (r : DisallowedTags)
  | findMissingDigest (withInit : Bool)
  | changeVersion (r : VersionChange)
  | searchAnnotations (r : AnnotationSearch)
  | checkEntry (r : EntryCheck)
  | findServiceType (type : String)
  | findExternalIps (addresses : List String)
  | updateExternalIp (r : ExternalIpUpdate)
  | findUnprotectedIngress
  | findAddress
  | addRule (r : RuleAddition)

namespace Recipe

/- The name of the recipe that checks a part of the metadata. -/
def checkName : Labelling.Section → String
  | .annotations => "find-missing-or-invalid-annotation"
  | .labels => "find-missing-or-invalid-label"

/- The name by which a recipe is configured. -/
def name : Recipe → String
  | .addConfiguration _ => "add-configuration"
  | .findMissingConfiguration _ =>
      "find-resource-missing-configuration"
  | .capQuantity _ => "cap-resource-value-to-maximum"
  | .findQuantity _ => "find-exceeds-resource-value"
  | .findRatio _ => "find-exceeds-resource-ratio"
  | .updateImage _ => "update-container-image-name"
  | .findImage _ => "find-image"
  | .findTags _ => "find-disallowed-image-tags"
  | .findMissingDigest _ => "find-missing-digest"
  | .changeVersion _ => "change-api-version"
  | .searchAnnotations _ => "find-annotation"
  | .checkEntry r => checkName r.part
  | .findServiceType _ => "find-services-by-type"
  | .findExternalIps _ => "find-service-external-ips"
  | .updateExternalIp _ => "update-service-external-ip"
  | .findUnprotectedIngress => "find-non-tls-ingress"
  | .findAddress => "find-hardcoded-ip-address"
  | .addRule _ => "add-rule-to-role"

/- Apply a recipe to a document.  Only quantities can be at fault. -/
def visit (r : Recipe) (t : Tree) : Except Quantity.Fault Visit :=
  match r with
  | .addConfiguration r => .ok (r.visit t)
  | .findMissingConfiguration r => .ok (r.visit t)
  | .capQuantity l => l.cap t
  | .findQuantity l => l.find t
  | .findRatio l => l.find t
  | .updateImage r => .ok (r.visit t)
  | .findImage p => .ok (ContainerImage.find p t)
  | .findTags r => .ok (r.visit t)
  | .findMissingDigest withInit =>
      .ok (ContainerImage.findMissingDigest withInit t)
  | .changeVersion r => .ok (r.visit t)
  | .searchAnnotations r => .ok (r.visit t)
  | .checkEntry r => .ok (r.visit t)
  | .findServiceType type => .ok (Service.findType type t)
  | .findExternalIps ips => .ok (Service.findExternalIps ips t)
  | .updateExternalIp r => .ok (r.visit t)
  | .findUnprotectedIngress => .ok (Ingress.findUnprotected t)
  | .findAddress => .ok (Address.find t)
  | .addRule r => .ok (r.visit t)

end Recipe

end ManifestRecipes
