import ManifestRecipes.Proofs.Tree
import ManifestRecipes.Resource
import ManifestRecipes.Tree.Yaml

/-
  Documents as they are read, and their kinds.

  Main declarations:
    * `Tree.uniqueKeys_ofYaml`
    * `Tree.uniqueKeys_of_readYaml`
    * `Resource.isKind_ofTree_iff`
-/

namespace ManifestRecipes

namespace Tree

mutual

/- Trees of values have unique keys. -/
theorem uniqueKeys_ofYaml :
    (v : Yaml.Value) → (ofYaml v).UniqueKeys
  | .mapping es => by
      rw [ofYaml, uniqueKeys_mapping_iff]
      refine ⟨Mapping.nodup_keys_ofList _, ?_⟩
      intro k t hMember
      exact uniqueKeys_entriesOfYaml es k t
        (Mapping.mem_of_mem_ofList hMember)
  | .sequence xs => by
      rw [ofYaml, uniqueKeys_sequence_iff]
      exact uniqueKeys_itemsOfYaml xs
  | .tagged _ v => by
      rw [ofYaml]
      exact uniqueKeys_ofYaml v
  | .null | .bool _ | .int _ | .float _ | .string _ => by
      simp [ofYaml]

/- So do the trees of items. -/
theorem uniqueKeys_itemsOfYaml :
    (xs : List Yaml.Value) →
      ∀ t ∈ itemsOfYaml xs, t.UniqueKeys
  | [], t, hMember => absurd hMember List.not_mem_nil
  | x :: xs, t, hMember => by
      rcases List.mem_cons.mp hMember with rfl | hMember
      · exact uniqueKeys_ofYaml x
      · exact uniqueKeys_itemsOfYaml xs t hMember

/- So do the trees of entries. -/
theorem uniqueKeys_entriesOfYaml :
    (es : List (Yaml.Value × Yaml.Value)) →
      ∀ k t, (k, t) ∈ entriesOfYaml es → t.UniqueKeys
  | [], k, t, hMember => absurd hMember List.not_mem_nil
  | (key, v) :: es, k, t, hMember => by
      rcases List.mem_cons.mp hMember with hHead | hMember
      · cases hHead
        exact uniqueKeys_ofYaml v
      · exact uniqueKeys_entriesOfYaml es k t hMember

end

/- A document that is read has unique keys. -/
theorem uniqueKeys_of_readYaml
    {text : String}
    {t : Tree}
    (hRead : readYaml text = .ok t) :
    t.UniqueKeys := by
  unfold readYaml at hRead
  cases hValue : Yaml.Value.onlyOfText text with
  | error fault =>
      rw [hValue] at hRead
      cases hRead
  | ok v =>
      rw [hValue] at hRead
      cases hRead
      exact uniqueKeys_ofYaml v

end Tree

/- A document is of the kind that is written in it. -/
theorem Resource.isKind_ofTree_iff
    {t : Tree}
    {kind : String}
    (hNamed : kind ≠ "") :
    (ofTree t).isKind (some kind) = true ↔
      t.textAt? "kind" = some kind := by
  cases hKind : t.textAt? "kind" with
  | none => simpa [isKind, ofTree, hKind] using hNamed.symm
  | some written => simp [isKind, ofTree, hKind]

end ManifestRecipes
