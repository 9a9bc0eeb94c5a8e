import ManifestRecipes.Proofs.Workload
import ManifestRecipes.Resource.Labelling

/-
  Where metadata blocks and their entries are.

  An entry can be told by what is above it, and it can be
  reached by two steps down from its metadata block.  In trees
  without repeated keys both come to the same.

  Key definitions include:
    * `Labelling.MetadataPath`
    * `Labelling.entryUnder`

  Main declarations:
    * `Labelling.isMetadata_iff`
    * `Labelling.isEntry_iff`
-/

namespace ManifestRecipes

namespace Labelling

variable {t : Tree} {c : Cursor} {p : Path}

------------------------------------------------------------
-- Places
------------------------------------------------------------

/- The places of the document and of the templates in it. -/
def LabelledPath (p : Path) : Prop :=
  p = [] ∨ ∃ q, p = q ++ [.field "template"] ∨
    p = q ++ [.field "jobTemplate"]

/- The places of the metadata blocks of a document. -/
def MetadataPath (t : Tree) (p : Path) : Prop :=
  (∃ n, t.lookup? p = some n ∧ n.isMapping = true) ∧
    ∃ q, LabelledPath q ∧ p = q ++ [.field "metadata"]

/- The place of an entry of the metadata at a path. -/
def entryUnder (s : Section) (name : String) (p : Path) : Path :=
  p ++ [.field s.key] ++ [.field name]

theorem MetadataPath.exists_isOf (hMetadata : MetadataPath t p) :
    ∃ c : Cursor, c.IsOf t ∧ c.path = p := by
  rcases hMetadata.1 with ⟨n, hNode, _⟩
  rcases Cursor.exists_isOf_of_lookup? hNode with ⟨c, hOf, hPath, _⟩
  exact ⟨c, hOf, hPath⟩

theorem entryUnder_injective (s : Section) (name : String) :
    Function.Injective (entryUnder s name) := by
  intro p q hSame
  rw [entryUnder, entryUnder, List.append_cancel_right_eq,
    List.append_cancel_right_eq] at hSame
  exact hSame

------------------------------------------------------------
-- Nodes at the Places
------------------------------------------------------------

theorem isLabelled_iff :
    isLabelled c = true ↔ LabelledPath c.path := by
  have hRoot : c.isRoot = true ↔ c.path = [] := by
    simp [Cursor.isRoot, Cursor.path]
  simp only [isLabelled, Bool.or_eq_true, decide_eq_true_eq, hRoot,
    Cursor.key?_eq_some_iff, LabelledPath, exists_or, or_assoc]

/- A metadata block is the mapping at its place. -/
theorem isMetadata_iff
    (hOf : c.IsOf t)
    (hKeys : t.UniqueKeys) :
    isMetadata c = true ↔ MetadataPath t c.path := by
  have hPlace :
      (c.key? = some "metadata" ∧
        ∃ b, c.parent? = some b ∧ isLabelled b = true) ↔
      ∃ q, LabelledPath q ∧ c.path = q ++ [.field "metadata"] :=
    Workload.key?_parent?_iff "metadata" hOf
      fun _ _ _ => isLabelled_iff
  rw [MetadataPath, ← hPlace, hOf.lookup?_path hKeys]
  simp only [isMetadata, Bool.and_eq_true, Option.any_eq_true,
    decide_eq_true_eq, Option.some.injEq, exists_eq_left']
  tauto

/- A section of a metadata block is the node at its place. -/
theorem isSection_iff
    (s : Section)
    (hOf : c.IsOf t)
    (hKeys : t.UniqueKeys) :
    isSection s c = true ↔
      ∃ p, MetadataPath t p ∧ c.path = p ++ [.field s.key] := by
  have hPlace := Workload.key?_parent?_iff s.key hOf
    fun m hMetadata _ => isMetadata_iff hMetadata hKeys
  rw [← hPlace]
  simp only [isSection, Bool.and_eq_true, Option.any_eq_true,
    decide_eq_true_eq]

/- So is an entry of the section. -/
theorem isEntry_iff
    (s : Section)
    (name : String)
    (hOf : c.IsOf t)
    (hKeys : t.UniqueKeys) :
    (isEntry s c && c.key? = some name) = true ↔
      ∃ p, MetadataPath t p ∧ c.path = entryUnder s name p := by
  have hPlace :
      (c.key? = some name ∧
        ∃ b, c.parent? = some b ∧ isSection s b = true) ↔
      ∃ q, (∃ p, MetadataPath t p ∧ q = p ++ [.field s.key]) ∧
        c.path = q ++ [.field name] :=
    Workload.key?_parent?_iff name hOf
      fun _ hOf' _ => isSection_iff s hOf' hKeys
  simp only [isEntry, Bool.and_eq_true, Option.any_eq_true,
    decide_eq_true_eq]
  constructor
  · intro hEntry
    rcases hEntry with ⟨⟨_, hSection⟩, hKey⟩
    rcases hPlace.mp ⟨hKey, hSection⟩ with
      ⟨_, ⟨p, hMetadata, rfl⟩, hPath⟩
    exact ⟨p, hMetadata, hPath⟩
  · intro hPlaced
    rcases hPlaced with ⟨p, hMetadata, hPath⟩
    rcases hPlace.mpr ⟨_, ⟨p, hMetadata, rfl⟩, hPath⟩ with
      ⟨hKey, hSection⟩
    exact ⟨⟨by simp [hKey], hSection⟩, hKey⟩

end Labelling

end ManifestRecipes
