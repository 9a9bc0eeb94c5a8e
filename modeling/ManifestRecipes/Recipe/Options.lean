import ManifestRecipes.Recipe
import ManifestRecipes.Recipe.Fault
import ManifestRecipes.Tree.Yaml

/-
  Recipes as they are configured.

  The options of a recipe are texts that still have to be
  read before the recipe can be used.

  Key definitions include:
    * `Options`
    * `Options.build`
-/

namespace ManifestRecipes

/- Options for adding configuration. -/
structure ConfigurationOptions where
  version? : Option String
  kind : String
  path : String
  value : String
deriving DecidableEq, Repr

/- Options for a limit of quantities. -/
structure QuantityOptions where
  bound : ResourceBound
  kind : ResourceKind
  limit : String
deriving DecidableEq, Repr

/- The options of each recipe. -/
inductive Options where
  | addConfiguration (o : ConfigurationOptions)
  | findMissingConfiguration (kind? : Option String) (path : String)
  | capQuantity (o : QuantityOptions)
  | findQuantity (o : QuantityOptions)
  | findRatio (kind : ResourceKind) (limit : String)
  | updateImage (r : ImageUpdate)
  | findImage (p : ImagePattern)
  | findTags (r : DisallowedTags)
  | findMissingDigest (withInit : Bool)
  | changeVersion (r : VersionChange)
  | searchAnnotations (name : String) (value? : Option String)
  | checkEntry
      (part : Labelling.Section)
      (name : String)
      (value? : Option String)
  | findServiceType (type : String)
  | findExternalIps (addresses : List String)
  | updateExternalIp (r : ExternalIpUpdate)
  | findUnprotectedIngress
  | findAddress
  | addRule (r : RuleAddition)
deriving DecidableEq, Repr

namespace Options

def expression (text : String) : Except Recipe.Fault Expression :=
  (Expression.read text).mapError .expression

/- Read the entries to be added. -/
def fragment (text : String) : Except Recipe.Fault (Mapping Tree) :=
  match Tree.readYaml text with
  | .error _ => .error (.option .unreadableValue)
  | .ok t =>
      match t.entries? with
      | some es => .ok es
      | none => .error (.option .valueNotMapping)

/- Read the options for adding configuration. -/
def addedConfiguration (o : ConfigurationOptions) :
    Except Recipe.Fault AddedConfiguration := do
  let e ← expression o.path
  if e.isAbsolute then
    .ok ⟨o.version?, o.kind, e, ← fragment o.value⟩
  else .error (.option .relativePath)

def quantityLimit (o : QuantityOptions) :
    Except Recipe.Fault QuantityLimit := do
  let q ← (Quantity.read o.limit).mapError .quantity
  .ok ⟨o.bound, o.kind, o.limit, q⟩

def ratioLimit (kind : ResourceKind) (limit : String) :
    Except Recipe.Fault RatioLimit := do
  let r ← (Ratio.read limit).mapError .quantity
  .ok ⟨kind, limit, r⟩

/- Read a pattern for values, if there is one. -/
def valuePattern? :
    Option String → Except Recipe.Fault (Option ValuePattern)
  | none => .ok none
  | some text =>
      match ValuePattern.read? text with
      | some p => .ok (some p)
      | none => .error (.pattern "value")

def disallowedTags (r : DisallowedTags) :
    Except Recipe.Fault DisallowedTags :=
  if r.tags.isEmpty then .error (.option .noTags) else .ok r

/- Check the kind of the roles and that the rule has verbs. -/
def ruleAddition (r : RuleAddition) :
    Except Recipe.Fault RuleAddition :=
  if r.kind ∈ ["Role", "ClusterRole"] then
    if r.rule.verbs.isEmpty then .error (.option .noVerbs) else .ok r
  else .error (.option .notRole)

/- The recipe with given options. -/
def build : Options → Except Recipe.Fault Recipe
  | .addConfiguration o => do
      .ok (.addConfiguration (← addedConfiguration o))
  | .findMissingConfiguration kind? path => do
      .ok (.findMissingConfiguration ⟨kind?, ← expression path⟩)
  | .capQuantity o => do .ok (.capQuantity (← quantityLimit o))
  | .findQuantity o => do .ok (.findQuantity (← quantityLimit o))
  | .findRatio kind limit => do
      .ok (.findRatio (← ratioLimit kind limit))
  | .updateImage r => .ok (.updateImage r)
  | .findImage p => .ok (.findImage p)
  | .findTags r => do .ok (.findTags (← disallowedTags r))
  | .findMissingDigest withInit => .ok (.findMissingDigest withInit)
  | .changeVersion r => .ok (.changeVersion r)
  | .searchAnnotations name value? => do
      .ok (.searchAnnotations ⟨name, ← valuePattern? value?⟩)
  | .checkEntry part name value? => do
      .ok (.checkEntry ⟨part, name, ← valuePattern? value?⟩)
  | .findServiceType type => .ok (.findServiceType type)
  | .findExternalIps ips => .ok (.findExternalIps ips)
  | .updateExternalIp r => .ok (.updateExternalIp r)
  | .findUnprotectedIngress => .ok .findUnprotectedIngress
  | .findAddress => .ok .findAddress
  | .addRule r => do .ok (.addRule (← ruleAddition r))

end Options

end ManifestRecipes
