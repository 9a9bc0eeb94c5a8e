import ManifestRecipes.Expression.Reading
import ManifestRecipes.Quantity.Fault

/-
  Why a recipe cannot be used.

  Key definitions include:
    * `OptionFault`
    * `Recipe.Fault`
    * `Recipe.Fault.message`
-/

namespace ManifestRecipes

/- What is wrong with an option. -/
inductive OptionFault where
  | relativePath
  | unreadableValue
  | valueNotMapping
  | noTags
  | notRole
  | noVerbs
deriving DecidableEq, Repr

namespace OptionFault

/- The option at fault. -/
def option : OptionFault → String
  | .relativePath => "configurationPath"
  | .unreadableValue => "value"
  | .valueNotMapping => "value"
  | .noTags => "disallowedTags"
  | .notRole => "rbacResourceType"
  | .noVerbs => "verbs"

/- What the option must be. -/
def reason : OptionFault → String
  | .relativePath => "must start with '$'"
  | .unreadableValue => "failed to parse YAML"
  | .valueNotMapping => "must be a YAML mapping"
  | .noTags => "at least one tag is required"
  | .notRole => "must be Role or ClusterRole"
  | .noVerbs => "at least one verb is required"

end OptionFault

namespace Recipe

/- Why a configuration makes no recipe. -/
inductive Fault where
  | configuration
  | quantity (f : Quantity.Fault)
  | expression (f : Expression.Fault)
  | option (f : OptionFault)
  | pattern (option : String)
deriving DecidableEq, Repr

/- The message of a fault. -/
def Fault.message : Fault → String
  | .configuration => "invalid recipe configuration"
  | .quantity f => f.message
  | .expression f => f.message
  | .option f => "invalid option " ++ f.option ++ ": " ++ f.reason
  | .pattern name => "invalid pattern for " ++ name

end Recipe

end ManifestRecipes
