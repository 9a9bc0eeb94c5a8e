import ManifestRecipes.Tree.Yaml

/-
  Manifests: the documents of one file.

  Key definitions include:
    * `Manifest`
    * `Manifest.read`
    * `Manifest.text`
-/

namespace ManifestRecipes

/- Documents in order. -/
abbrev Manifest :=
  List Tree

namespace Manifest

/- Read a manifest; empty documents are left out. -/
def read (text : String) : Except Yaml.Fault Manifest :=
  (Tree.readYamlAll text).map (List.filter (!·.isNull))

/- The line between two documents. -/
def separator : String :=
  "---\n"

/- A manifest as it is written. -/
def text (m : Manifest) : String :=
  separator.intercalate (m.map Tree.yamlText)

end Manifest

end ManifestRecipes
