import ManifestRecipes.Recipe.Options
import ManifestRecipes.Recipe.Options.Decoding

/-
  Reading configurations of recipes.

  Key definitions include:
    * `Options.ofFields?`
    * `Options.read`
    * `Recipe.read`
-/

namespace ManifestRecipes

namespace Options

open Fields

def bounds : List (String × ResourceBound) :=
  [("limits", .limits), ("requests", .requests)]

def kinds : List (String × ResourceKind) :=
  [("cpu", .cpu), ("memory", .memory)]

/- The options for adding configuration. -/
def configuration? (v : Yaml.Value) : Option ConfigurationOptions := do
  let fs ← ofValue?
    ["apiVersion", "resourceKind", "configurationPath", "value"] v
  some
    ⟨← optionalText? "apiVersion" fs, ← text? "resourceKind" fs,
      ← text? "configurationPath" fs, ← text? "value" fs⟩

/- The options of a limit. -/
def quantity? (v : Yaml.Value) : Option QuantityOptions := do
  let fs ← ofValue?
    ["resourceValueType", "resourceType", "resourceLimit"] v
  some
    ⟨← choice? bounds "resourceValueType" fs,
      ← choice? kinds "resourceType" fs,
      ← textOrNumber? "resourceLimit" fs⟩

def imagePattern? (v : Yaml.Value) : Option ImagePattern := do
  let fs ← ofValue? ["repository", "imageName", "imageTag"] v
  some
    ⟨← optionalText? "repository" fs, some (← text? "imageName" fs),
      ← optionalText? "imageTag" fs⟩

/- The options for updating images. -/
def imageUpdate? (v : Yaml.Value) : Option ImageUpdate := do
  let fs ← ofValue?
    ["repoToFind", "imageToFind", "tagToFind", "repoToUpdate",
     "imageToUpdate", "tagToUpdate", "includeInitContainers"] v
  some
    ⟨⟨← optionalText? "repoToFind" fs,
        some (← text? "imageToFind" fs),
        ← optionalText? "tagToFind" fs⟩,
      ← optionalText? "repoToUpdate" fs,
      ← optionalText? "imageToUpdate" fs,
      ← optionalText? "tagToUpdate" fs,
      ← flag? "includeInitContainers" fs⟩

/- The options for adding a rule. -/
def ruleAddition? (v : Yaml.Value) : Option RuleAddition := do
  let fs ← ofValue?
    ["rbacResourceType", "rbacResourceName", "apiGroups",
     "resources", "resourceNames", "verbs"] v
  some
    ⟨← text? "rbacResourceType" fs, ← text? "rbacResourceName" fs,
      ⟨← texts? "apiGroups" fs, ← texts? "resources" fs,
        ← optionalTexts? "resourceNames" fs, ← texts? "verbs" fs⟩⟩

/- The name of an entry and the pattern for its value. -/
def entry? (nameKey : String) (v : Yaml.Value) :
    Option (String × Option String) := do
  let fs ← ofValue? [nameKey, "value"] v
  some (← text? nameKey fs, ← optionalText? "value" fs)

def texts2? (first second : String) (v : Yaml.Value) :
    Option (String × String) := do
  let fs ← ofValue? [first, second] v
  some (← text? first fs, ← text? second fs)

/- Options for a recipe whose fields are not read. -/
def unit? (o : Options) (v : Yaml.Value) : Option Options :=
  if isUnit v then some o else none

/- The options of a recipe in its fields. -/
def ofFields? (recipe : String) (v : Yaml.Value) : Option Options :=
  match recipe with
  | "add-configuration" => (configuration? v).map .addConfiguration
  | "find-resource-missing-configuration" => do
      let fs ← ofValue? ["resourceKind", "configurationPath"] v
      some <| .findMissingConfiguration
        (← optionalText? "resourceKind" fs)
        (← text? "configurationPath" fs)
  | "cap-resource-value-to-maximum" =>
      (quantity? v).map .capQuantity
  | "find-exceeds-resource-value" =>
      (quantity? v).map .findQuantity
  | "find-exceeds-resource-ratio" => do
      let fs ← ofValue? ["resourceType", "ratioLimit"] v
      some <| .findRatio
        (← choice? kinds "resourceType" fs)
        (← textOrNumber? "ratioLimit" fs)
  | "update-container-image-name" => (imageUpdate? v).map .updateImage
  | "find-image" => (imagePattern? v).map .findImage
  | "find-disallowed-image-tags" => do
      let fs ← ofValue? ["disallowedTags", "includeInitContainers"] v
      some <| .findTags
        ⟨← texts? "disallowedTags" fs,
          ← flag? "includeInitContainers" fs⟩
  | "find-missing-digest" => do
      let fs ← ofValue? ["includeInitContainers"] v
      some (.findMissingDigest (← flag? "includeInitContainers" fs))
  | "change-api-version" => do
      let (old, new) ← texts2? "oldApiVersion" "newApiVersion" v
      some (.changeVersion ⟨old, new⟩)
  | "find-annotation" => do
      let (name, value?) ← entry? "annotationName" v
      some (.searchAnnotations name value?)
  | "find-missing-or-invalid-annotation" => do
      let (name, value?) ← entry? "annotationName" v
      some (.checkEntry .annotations name value?)
  | "find-missing-or-invalid-label" => do
      let (name, value?) ← entry? "labelName" v
      some (.checkEntry .labels name value?)
  | "find-services-by-type" => do
      let fs ← ofValue? ["serviceType"] v
      some (.findServiceType (← text? "serviceType" fs))
  | "find-service-external-ips" => do
      let fs ← ofValue? ["ipAddresses"] v
      some (.findExternalIps (← texts? "ipAddresses" fs))
  | "update-service-external-ip" => do
      let (old, new) ← texts2? "ipToFind" "ipToUpdate" v
      some (.updateExternalIp ⟨old, new⟩)
  | "find-non-tls-ingress" => unit? .findUnprotectedIngress v
  | "find-hardcoded-ip-address" => unit? .findAddress v
  | "add-rule-to-role" => (ruleAddition? v).map .addRule
  | _ => none

/- The options in a configuration in which no alias is left. -/
def ofContent? (c : Yaml.Content) : Option Options :=
  (recipeAndRest? c).bind fun (recipe, v) => ofFields? recipe v

/- Read a configuration. -/
def read (text : String) : Except Recipe.Fault Options :=
  match Yaml.Content.onlyOfText text with
  | .ok c =>
      match ofContent? c with
      | some o => .ok o
      | none => .error .configuration
  | .error _ => .error .configuration

end Options

/- The recipe of a configuration. -/
def Recipe.read (text : String) : Except Recipe.Fault Recipe := do
  (← Options.read text).build

end ManifestRecipes
