/-
  Why a YAML text is refused.

  Key definitions include:
    * `Yaml.Fault`
-/

namespace ManifestRecipes

namespace Yaml

/- The reasons for refusing a text. -/
inductive Fault where
  /- A character that no text may hold. -/
  | character
  /- A character that starts nothing. -/
  | indicator
  /- A tab in place of indentation. -/
  | tab
  /- A key without its value indicator. -/
  | openKey
  /- An entry, key or value where none may start. -/
  | misplaced
  | directive
  | repeatedDirective
  | version
  | anchor
  | tag
  | unknownHandle
  | blockHeader
  | documentIndicator
  | openQuote
  | escape
  /- A colon before a flow indicator. -/
  | flowColon
  | documentStart
  | nodeContent
  | sequenceEntry
  | mappingKey
  | flowEntry
  | unknownAnchor
  | tooDeep
  | tooManyAliases
  | emptyTag
  | tagMismatch
  | wideInteger
  | repeatedKey
  | manyDocuments
deriving DecidableEq, Repr

end Yaml

end ManifestRecipes
