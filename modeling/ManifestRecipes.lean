import ManifestRecipes.Binary64
import ManifestRecipes.Binary64.Notation
import ManifestRecipes.Binary64.Reading
import ManifestRecipes.Binary64.Shortest
import ManifestRecipes.CommandLine
import ManifestRecipes.CommandLine.Arguments
import ManifestRecipes.Cursor
import ManifestRecipes.Expression
import ManifestRecipes.Expression.Reading
import ManifestRecipes.Expression.Selection
import ManifestRecipes.Findings
import ManifestRecipes.Image.Glob
import ManifestRecipes.Image.Name
import ManifestRecipes.Image.Pattern
import ManifestRecipes.Json
import ManifestRecipes.Json.Number
import ManifestRecipes.Json.Reading
import ManifestRecipes.Main
import ManifestRecipes.Manifest
import ManifestRecipes.Mapping
import ManifestRecipes.Merge
import ManifestRecipes.Path
import ManifestRecipes.Pattern
import ManifestRecipes.Pattern.Form
import ManifestRecipes.Pattern.Form.Bracket
import ManifestRecipes.Pattern.Form.Escape
import ManifestRecipes.Pattern.Form.Reading
import ManifestRecipes.Pattern.Form.Source
import ManifestRecipes.Pattern.Meaning
import ManifestRecipes.Pattern.Reading
import ManifestRecipes.Proofs.Binary64.LongInteger
import ManifestRecipes.Proofs.Binary64.Nearest
import ManifestRecipes.Proofs.Binary64.Notation
import ManifestRecipes.Proofs.Binary64.Shortest
import ManifestRecipes.Proofs.CommandLine
import ManifestRecipes.Proofs.Cursor
import ManifestRecipes.Proofs.Cursor.Move
import ManifestRecipes.Proofs.Document
import ManifestRecipes.Proofs.Expression.Canonical
import ManifestRecipes.Proofs.Expression.Derivation
import ManifestRecipes.Proofs.Expression.Grammar
import ManifestRecipes.Proofs.Expression.Position
import ManifestRecipes.Proofs.Expression.Reading
import ManifestRecipes.Proofs.Failure
import ManifestRecipes.Proofs.Findings
import ManifestRecipes.Proofs.Findings.History
import ManifestRecipes.Proofs.FirstOccurrence
import ManifestRecipes.Proofs.Growth
import ManifestRecipes.Proofs.Growth.Additions
import ManifestRecipes.Proofs.Growth.Selection
import ManifestRecipes.Proofs.Image.Dangling
import ManifestRecipes.Proofs.Image.Glob
import ManifestRecipes.Proofs.Image.Name
import ManifestRecipes.Proofs.Image.RoundTrip
import ManifestRecipes.Proofs.Labelling
import ManifestRecipes.Proofs.Location
import ManifestRecipes.Proofs.Mapping
import ManifestRecipes.Proofs.Mapping.History
import ManifestRecipes.Proofs.Merge
import ManifestRecipes.Proofs.Patch
import ManifestRecipes.Proofs.Pattern
import ManifestRecipes.Proofs.Pattern.Form
import ManifestRecipes.Proofs.Pattern.Reading
import ManifestRecipes.Proofs.Pattern.Shorter.Bracket
import ManifestRecipes.Proofs.Pattern.Shorter.Form
import ManifestRecipes.Proofs.Pattern.Shorter.Reading
import ManifestRecipes.Proofs.Pattern.Shorter.Source
import ManifestRecipes.Proofs.Pattern.Source
import ManifestRecipes.Proofs.Quantity
import ManifestRecipes.Proofs.Quantity.Ratio
import ManifestRecipes.Proofs.Recipe.Address
import ManifestRecipes.Proofs.Recipe.Change
import ManifestRecipes.Proofs.Recipe.Configuration
import ManifestRecipes.Proofs.Recipe.ConfiguredLimit
import ManifestRecipes.Proofs.Recipe.ContainerImage
import ManifestRecipes.Proofs.Recipe.Edits
import ManifestRecipes.Proofs.Recipe.ImageParts
import ManifestRecipes.Proofs.Recipe.ImageSearch
import ManifestRecipes.Proofs.Recipe.Independence
import ManifestRecipes.Proofs.Recipe.Ingress
import ManifestRecipes.Proofs.Recipe.Limit
import ManifestRecipes.Proofs.Recipe.MetadataEntry
import ManifestRecipes.Proofs.Recipe.RatioLimit
import ManifestRecipes.Proofs.Recipe.Replacement
import ManifestRecipes.Proofs.Recipe.Role
import ManifestRecipes.Proofs.Recipe.SmallerLimit
import ManifestRecipes.Proofs.Recipe.TextRule
import ManifestRecipes.Proofs.Recipe.ValuePattern
import ManifestRecipes.Proofs.Recipe.Visit
import ManifestRecipes.Proofs.Run
import ManifestRecipes.Proofs.Scalar
import ManifestRecipes.Proofs.Selection
import ManifestRecipes.Proofs.Spelling
import ManifestRecipes.Proofs.Text
import ManifestRecipes.Proofs.Tree
import ManifestRecipes.Proofs.Tree.Keys
import ManifestRecipes.Proofs.Tree.Replacement
import ManifestRecipes.Proofs.Tree.Yaml
import ManifestRecipes.Proofs.Unicode
import ManifestRecipes.Proofs.Workload
import ManifestRecipes.Proofs.Workload.Selection
import ManifestRecipes.Proofs.Yaml.Value
import ManifestRecipes.Quantity
import ManifestRecipes.Quantity.Fault
import ManifestRecipes.Quantity.Ratio
import ManifestRecipes.Quantity.Unit
import ManifestRecipes.Recipe
import ManifestRecipes.Recipe.Address
import ManifestRecipes.Recipe.Configuration
import ManifestRecipes.Recipe.ContainerImage
import ManifestRecipes.Recipe.Fault
import ManifestRecipes.Recipe.Limit
import ManifestRecipes.Recipe.MetadataEntry
import ManifestRecipes.Recipe.Options
import ManifestRecipes.Recipe.Options.Decoding
import ManifestRecipes.Recipe.Options.Fields
import ManifestRecipes.Recipe.Options.Reading
import ManifestRecipes.Recipe.Role
import ManifestRecipes.Recipe.Service
import ManifestRecipes.Recipe.Visit
import ManifestRecipes.Resource
import ManifestRecipes.Resource.Labelling
import ManifestRecipes.Resource.Workload
import ManifestRecipes.Run
import ManifestRecipes.Scalar
import ManifestRecipes.Text.Bytes
import ManifestRecipes.Text.Digits
import ManifestRecipes.Text.Quoted
import ManifestRecipes.Tree
import ManifestRecipes.Tree.Json
import ManifestRecipes.Tree.Yaml
import ManifestRecipes.Unicode.CaseFolding
import ManifestRecipes.Unicode.Category
import ManifestRecipes.Unicode.CodeSet
import ManifestRecipes.Unicode.Letter
import ManifestRecipes.Unicode.Property
import ManifestRecipes.Unicode.Query
import ManifestRecipes.Unicode.RunSet
import ManifestRecipes.Unicode.Script
import ManifestRecipes.Unicode.Word
import ManifestRecipes.Yaml.Character
import ManifestRecipes.Yaml.Content
import ManifestRecipes.Yaml.Fault
import ManifestRecipes.Yaml.Layout
import ManifestRecipes.Yaml.Layout.Scalar
import ManifestRecipes.Yaml.Node
import ManifestRecipes.Yaml.Position
import ManifestRecipes.Yaml.Tag
import ManifestRecipes.Yaml.Text.Block
import ManifestRecipes.Yaml.Text.Gap
import ManifestRecipes.Yaml.Text.Plain
import ManifestRecipes.Yaml.Text.Quoted
import ManifestRecipes.Yaml.Token
import ManifestRecipes.Yaml.Value
import ManifestRecipes.Yaml.Value.Plain
import ManifestRecipes.Yaml.Value.Resolve
