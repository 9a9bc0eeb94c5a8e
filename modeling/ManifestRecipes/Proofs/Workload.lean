import ManifestRecipes.Proofs.Cursor.Move
import ManifestRecipes.Resource.Workload

/-
  Where the containers of a workload are.

  What a node is to a workload depends on its path, on the
  kind of the document and on the shape of the node.  The
  shapes of the nodes on the way follow from the path.

  Key definitions include:
    * `Workload.PodSpecPath`
    * `Workload.ContainerPath`
    * `Workload.ImagePath`
    * `Workload.QuantityPath`

  Main declarations:
    * `Workload.isPodSpec_iff`
    * `Workload.isContainer_iff`
    * `Workload.isImage_iff`
    * `Workload.isQuantity_iff`
-/

namespace ManifestRecipes

theorem ResourceBound.key_injective :
    Function.Injective ResourceBound.key := by
  intro a b hKey
  cases a <;> cases b <;> simp [key] at hKey ⊢

theorem ResourceKind.key_injective :
    Function.Injective ResourceKind.key := by
  intro a b hKey
  cases a <;> cases b <;> simp [key] at hKey ⊢

namespace Workload

variable {t : Tree} {c : Cursor} {withInit : Bool}

------------------------------------------------------------
-- Places
------------------------------------------------------------

/- The place of the pod spec in a workload. -/
def PodSpecPath (t : Tree) (p : Path) : Prop :=
  ∃ kind chain, t.textAt? "kind" = some kind ∧
    podSpecChain? kind = some chain ∧ p = chain.map .field

/- The places of the lists of containers. -/
def ContainerListPath
    (withInit : Bool)
    (t : Tree)
    (p : Path) : Prop :=
  ∃ q key, PodSpecPath t q ∧
    listsContainers withInit (some key) = true ∧
      p = q ++ [.field key]

/- The places of containers. -/
def ContainerPath
    (withInit : Bool)
    (t : Tree)
    (p : Path) : Prop :=
  ∃ q i, ContainerListPath withInit t q ∧ p = q ++ [.index i]

/- The places of the images of containers. -/
def ImagePath
    (withInit : Bool)
    (t : Tree)
    (p : Path) : Prop :=
  ∃ q, ContainerPath withInit t q ∧ p = q ++ [.field "image"]

def ResourcesPath (t : Tree) (p : Path) : Prop :=
  ∃ q, ContainerPath true t q ∧ p = q ++ [.field "resources"]

/- The places of the bounds of one sort. -/
def BoundPath
    (bound : ResourceBound)
    (t : Tree)
    (p : Path) : Prop :=
  ∃ q, ResourcesPath t q ∧ p = q ++ [.field bound.key]

/- The places of the quantities of a resource. -/
def QuantityPath
    (bound : ResourceBound)
    (kind : ResourceKind)
    (t : Tree)
    (p : Path) : Prop :=
  ∃ q, BoundPath bound t q ∧ p = q ++ [.field kind.key]

/- The place of a quantity in the resources at a path. -/
def quantityUnder
    (bound : ResourceBound)
    (kind : ResourceKind)
    (p : Path) : Path :=
  p ++ [.field bound.key, .field kind.key]

/- It is the place of a quantity when the resources are at theirs. -/
theorem quantityPath_under_iff
    {bound : ResourceBound}
    {kind : ResourceKind}
    {p : Path} :
    QuantityPath bound kind t (quantityUnder bound kind p) ↔
      ResourcesPath t p := by
  have hSplit : quantityUnder bound kind p =
      (p ++ [.field bound.key]) ++ [.field kind.key] := by
    simp [quantityUnder]
  rw [hSplit]
  constructor
  · rintro ⟨_, ⟨q, hPlace, rfl⟩, hPath⟩
    have hBound := (List.append_inj' hPath rfl).1
    rwa [(List.append_inj' hBound rfl).1]
  · intro hPlace
    exact ⟨_, ⟨p, hPlace, rfl⟩, rfl⟩

/- Documents of the same kind have their quantities at the same places. -/
theorem QuantityPath.congr
    {bound : ResourceBound}
    {kind : ResourceKind}
    {t' : Tree}
    {p : Path}
    (hKind : t'.textAt? "kind" = t.textAt? "kind") :
    QuantityPath bound kind t' p ↔ QuantityPath bound kind t p := by
  simp only [QuantityPath, BoundPath, ResourcesPath,
    ContainerPath, ContainerListPath, PodSpecPath, hKind]

theorem ImagePath.congr
    {t' : Tree}
    {p : Path}
    (hKind : t'.textAt? "kind" = t.textAt? "kind") :
    ImagePath withInit t' p ↔ ImagePath withInit t p := by
  simp only [ImagePath, ContainerPath, ContainerListPath,
    PodSpecPath, hKind]

theorem not_imagePath_kind :
    ¬ ImagePath withInit t [.field "kind"] := by
  rintro ⟨_, ⟨q, i, _, rfl⟩, hPath⟩
  have hLength := congrArg List.length hPath
  simp at hLength

theorem not_quantityPath_kind
    {bound : ResourceBound}
    {kind : ResourceKind} :
    ¬ QuantityPath bound kind t [.field "kind"] := by
  rintro ⟨_, ⟨q, _, rfl⟩, hPath⟩
  have hLength := congrArg List.length hPath
  simp at hLength

------------------------------------------------------------
-- Nodes at the Places
------------------------------------------------------------

/- The names of a path of names. -/
theorem mapM_fieldName?_eq_some_iff
    {p : Path}
    {chain : List String} :
    p.mapM Path.Element.fieldName? = some chain ↔
      p = chain.map .field := by
  induction p generalizing chain with
  | nil => cases chain <;> simp
  | cons e p ih =>
      rw [List.mapM_cons, Option.bind_eq_bind,
        Option.bind_eq_some_iff]
      constructor
      · rintro ⟨name, hName, hRest⟩
        rcases Option.bind_eq_some_iff.mp hRest with
          ⟨names, hNames, hDone⟩
        cases hDone
        cases e with
        | index i => cases hName
        | field k =>
            cases hName
            exact congrArg _ (ih.mp hNames)
      · intro hPath
        cases chain with
        | nil => cases hPath
        | cons name names =>
            rw [List.map_cons, List.cons.injEq] at hPath
            rcases hPath with ⟨rfl, hRest⟩
            refine ⟨name, rfl, ?_⟩
            rw [ih.mpr hRest]
            rfl

/- The pod spec is the mapping at its place. -/
theorem isPodSpec_iff (hOf : c.IsOf t) :
    isPodSpec c = true ↔
      c.node.isMapping = true ∧ PodSpecPath t c.path := by
  rw [isPodSpec, Bool.and_eq_true, rootKind?, fieldChain?,
    hOf.root_eq]
  apply and_congr_right
  intro _
  constructor
  · intro hPlace
    split at hPlace
    · rename_i kind chain hKind hChain
      exact ⟨kind, chain, hKind, of_decide_eq_true hPlace,
        mapM_fieldName?_eq_some_iff.mp hChain⟩
    · cases hPlace
  · rintro ⟨kind, chain, hKind, hPlace, hPath⟩
    rw [hKind, mapM_fieldName?_eq_some_iff.mpr hPath]
    exact decide_eq_true hPlace

/- A list of containers is the sequence at its place. -/
theorem isContainerList_iff (hOf : c.IsOf t) :
    isContainerList withInit c = true ↔
      c.node.isSequence = true ∧
        ContainerListPath withInit t c.path := by
  simp only [isContainerList, Bool.and_eq_true,
    Option.any_eq_true]
  constructor
  · rintro ⟨⟨hLists, hSequence⟩, b, hParent, hSpec⟩
    cases hKey : c.key? with
    | none =>
        rw [hKey] at hLists
        simp [listsContainers] at hLists
    | some key =>
        rw [hKey] at hLists
        rcases Cursor.key?_eq_some_iff.mp hKey with ⟨q, hPath⟩
        rcases hOf.parent?_path hPath hParent with ⟨hOf', rfl⟩
        exact ⟨hSequence, b.path, key,
          ((isPodSpec_iff hOf').mp hSpec).2, hLists, hPath⟩
  · rintro ⟨hSequence, q, key, hSpec, hLists, hPath⟩
    rcases hOf.exists_parent hPath with ⟨b, hOf', hChild, rfl⟩
    rw [Cursor.key?_eq_some_iff.mpr ⟨_, hPath⟩]
    exact ⟨⟨hLists, hSequence⟩, b, hChild.parent?_eq,
      (isPodSpec_iff hOf').mpr
        ⟨hChild.isMapping_of_field hPath, hSpec⟩⟩

/- A container is the mapping at its place. -/
theorem isContainer_iff (hOf : c.IsOf t) :
    isContainer withInit c = true ↔
      c.node.isMapping = true ∧
        ContainerPath withInit t c.path := by
  simp only [isContainer, Bool.and_eq_true, Option.any_eq_true]
  constructor
  · rintro ⟨⟨hItem, hMapping⟩, b, hParent, hList⟩
    unfold isItem at hItem
    split at hItem
    · rename_i i hElement
      rcases Cursor.element?_eq_some_iff.mp hElement with
        ⟨q, hPath⟩
      rcases hOf.parent?_path hPath hParent with ⟨hOf', rfl⟩
      exact ⟨hMapping, b.path, i,
        ((isContainerList_iff hOf').mp hList).2, hPath⟩
    · cases hItem
  · rintro ⟨hMapping, q, i, hList, hPath⟩
    rcases hOf.exists_parent hPath with ⟨b, hOf', hChild, rfl⟩
    refine ⟨⟨?_, hMapping⟩, b, hChild.parent?_eq,
      (isContainerList_iff hOf').mpr
        ⟨hChild.isSequence_of_index hPath, hList⟩⟩
    rw [isItem, Cursor.element?_eq_some_iff.mpr ⟨_, hPath⟩]

/-
  A node under a key of a node that a test accepts is one at a
  place below those of the nodes accepted.
-/
theorem key?_parent?_iff
    {test : Cursor → Bool}
    {Place : Path → Prop}
    (key : String)
    (hOf : c.IsOf t)
    (hTest : ∀ b : Cursor, b.IsOf t → b.node.isMapping = true →
      (test b = true ↔ Place b.path)) :
    (c.key? = some key ∧ ∃ b, c.parent? = some b ∧ test b = true) ↔
      ∃ q, Place q ∧ c.path = q ++ [.field key] := by
  constructor
  · intro hUnder
    rcases hUnder with ⟨hKey, b, hParent, hAccepted⟩
    rcases Cursor.key?_eq_some_iff.mp hKey with ⟨q, hPath⟩
    rcases hOf.exists_parent hPath with ⟨b', hOf', hChild, rfl⟩
    have hSame : b' = b :=
      Option.some.inj (hChild.parent?_eq.symm.trans hParent)
    subst hSame
    have hMapping := hChild.isMapping_of_field hPath
    exact ⟨b'.path, (hTest b' hOf' hMapping).mp hAccepted, hPath⟩
  · intro hPlaced
    rcases hPlaced with ⟨q, hPlace, hPath⟩
    rcases hOf.exists_parent hPath with ⟨b, hOf', hChild, rfl⟩
    have hMapping := hChild.isMapping_of_field hPath
    exact ⟨Cursor.key?_eq_some_iff.mpr ⟨_, hPath⟩, b,
      hChild.parent?_eq, (hTest b hOf' hMapping).mpr hPlace⟩

theorem isContainer_iff_of_isMapping
    (hOf : c.IsOf t)
    (hMapping : c.node.isMapping = true) :
    isContainer withInit c = true ↔
      ContainerPath withInit t c.path := by
  rw [isContainer_iff hOf]
  exact and_iff_right hMapping

/- An image is the text at its place. -/
theorem isImage_iff (hOf : c.IsOf t) :
    isImage withInit c = true ↔
      c.node.text?.isSome = true ∧ ImagePath withInit t c.path := by
  have hPlace :
      (c.key? = some "image" ∧
        ∃ b, c.parent? = some b ∧ isContainer withInit b = true) ↔
      ImagePath withInit t c.path :=
    key?_parent?_iff "image" hOf
      fun _ => isContainer_iff_of_isMapping
  rw [← hPlace]
  simp only [isImage, Bool.and_eq_true, Option.any_eq_true,
    decide_eq_true_eq]
  tauto

/- The resources of a container are the mapping at their place. -/
theorem isResources_iff (hOf : c.IsOf t) :
    isResources c = true ↔
      c.node.isMapping = true ∧ ResourcesPath t c.path := by
  have hPlace :
      (c.key? = some "resources" ∧
        ∃ b, c.parent? = some b ∧ isContainer true b = true) ↔
      ResourcesPath t c.path :=
    key?_parent?_iff "resources" hOf
      fun _ => isContainer_iff_of_isMapping
  rw [← hPlace]
  simp only [isResources, Bool.and_eq_true, Option.any_eq_true,
    decide_eq_true_eq]
  tauto

/- The bounds of one sort are the node at their place. -/
theorem isBound_iff
    {bound : ResourceBound}
    (hOf : c.IsOf t) :
    isBound bound c = true ↔ BoundPath bound t c.path := by
  have hPlace :
      (c.key? = some bound.key ∧
        ∃ b, c.parent? = some b ∧ isResources b = true) ↔
      BoundPath bound t c.path := by
    apply key?_parent?_iff bound.key hOf
    intro b hOf' hMapping
    rw [isResources_iff hOf']
    exact and_iff_right hMapping
  rw [← hPlace]
  simp only [isBound, Bool.and_eq_true, Option.any_eq_true,
    decide_eq_true_eq]

/- A quantity of a resource is the text at its place. -/
theorem isQuantity_iff
    {bound : ResourceBound}
    {kind : ResourceKind}
    (hOf : c.IsOf t) :
    isQuantity bound kind c = true ↔
      c.node.text?.isSome = true ∧
        QuantityPath bound kind t c.path := by
  have hPlace :
      (c.key? = some kind.key ∧
        ∃ b, c.parent? = some b ∧ isBound bound b = true) ↔
      QuantityPath bound kind t c.path := by
    apply key?_parent?_iff kind.key hOf
    intro b hOf' _
    exact isBound_iff hOf'
  rw [← hPlace]
  simp only [isQuantity, Bool.and_eq_true, Option.any_eq_true,
    decide_eq_true_eq]
  tauto

end Workload

end ManifestRecipes
