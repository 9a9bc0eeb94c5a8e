import ManifestRecipes.Expression.Reading
import ManifestRecipes.Proofs.Spelling
import ManifestRecipes.Proofs.Workload

/-
  Containers found by path expressions.

  What a node is to a workload is told upwards, from the kind
  of the document and the way to the node.  Told downwards,
  the containers of a workload and their parts are the nodes
  that one path expression for each list selects.  Both agree,
  and no container lies in another.

  Key definitions include:
    * `Workload.listKeys`
    * `Workload.partExpression`
    * `Workload.SelectedPart`
    * `Workload.ToldBySelection`
    * `Workload.HasNoContainers`
    * `Workload.HasLoneContainers`

  Main declarations:
    * `Workload.selectedPart_iff`
    * `Workload.eq_of_isContainer`
    * `Workload.containerOf?_eq_some_iff`
    * `Workload.predicates_agree_with_selection`
-/

namespace ManifestRecipes

------------------------------------------------------------
-- Expressions for Parts of Containers
------------------------------------------------------------

namespace Workload

variable {t : Tree} {c : Cursor} {withInit : Bool}

/- The keys of the lists of containers. -/
def listKeys (withInit : Bool) : List String :=
  if withInit then ["containers", "initContainers"]
  else ["containers"]

/-
  The expression for what names lead to from every item of the
  list under a key, in the pod spec that a chain leads to.
-/
def partExpression
    (chain : List String)
    (key : String)
    (names : List String) : Expression :=
  .ofSegments <| .root ::
    (chain.map .field ++
      .field key :: .everyItem :: names.map .field)

/- The images in one list of a deployment. -/
example :
    (Expression.read
        "$.spec.template.spec.initContainers[*].image").toOption =
      some (partExpression ["spec", "template", "spec"]
        "initContainers" ["image"]) := by
  decide +kernel

/- The node is selected for one of the lists of containers. -/
def SelectedPart
    (t : Tree)
    (withInit : Bool)
    (chain names : List String)
    (c : Cursor) : Prop :=
  ∃ key ∈ listKeys withInit,
    c ∈ (partExpression chain key names).select t

theorem mem_listKeys_iff {key : String} :
    key ∈ listKeys withInit ↔
      listsContainers withInit (some key) = true := by
  cases withInit <;> simp [listKeys, listsContainers]

/- Names spell themselves before what follows them. -/
theorem spells_names_append_iff
    {names : List String}
    {ss : List Segment}
    {p : Path} :
    Expression.Spells (names.map .field ++ ss) p ↔
      ∃ q, Expression.Spells ss q ∧
        p = names.map .field ++ q := by
  induction names generalizing p with
  | nil => simp
  | cons name names ih =>
      constructor
      · intro hSpells
        cases hSpells with
        | field _ hRest =>
            rcases ih.mp hRest with ⟨q, hSpelled, rfl⟩
            exact ⟨q, hSpelled, rfl⟩
      · rintro ⟨q, hSpelled, rfl⟩
        exact .field name (ih.mpr ⟨q, hSpelled, rfl⟩)

/- Names spell themselves. -/
theorem spells_names_iff
    {names : List String}
    {p : Path} :
    Expression.Spells (names.map .field) p ↔
      p = names.map .field := by
  have hParts :
      Expression.Spells (names.map .field ++ []) p ↔
        ∃ q, Expression.Spells [] q ∧ p = names.map .field ++ q :=
    spells_names_append_iff
  rw [List.append_nil] at hParts
  rw [hParts]
  constructor
  · rintro ⟨q, ⟨⟩, rfl⟩
    exact List.append_nil _
  · rintro rfl
    exact ⟨[], .nil, (List.append_nil _).symm⟩

/- The expression spells the ways through the items of the list. -/
theorem spells_partExpression_iff
    {chain names : List String}
    {key : String}
    {p : Path} :
    Expression.Spells (partExpression chain key names).segments p ↔
      ∃ i, p = chain.map .field ++
        .field key :: .index i :: names.map .field := by
  constructor
  · intro hSpells
    cases hSpells with
    | root hChain =>
        rcases spells_names_append_iff.mp hChain with
          ⟨q, hList, rfl⟩
        cases hList with
        | field _ hItems =>
            cases hItems with
            | everyItem i hNames =>
                exact ⟨i, by rw [spells_names_iff.mp hNames]⟩
  · rintro ⟨i, rfl⟩
    refine .root (spells_names_append_iff.mpr ⟨_, ?_, rfl⟩)
    exact .field key (.everyItem i (spells_names_iff.mpr rfl))

theorem rooted_partExpression
    (chain : List String)
    (key : String)
    (names : List String) :
    (partExpression chain key names).Rooted := by
  refine ⟨_, rfl, ?_⟩
  simp

/-
  The nodes selected for the lists of containers are those that
  the names lead to from the place of a container.
-/
theorem selectedPart_iff
    {kind : String}
    {chain names : List String}
    (hKeys : t.UniqueKeys)
    (hOf : c.IsOf t)
    (hKind : t.textAt? "kind" = some kind)
    (hChain : podSpecChain? kind = some chain) :
    SelectedPart t withInit chain names c ↔
      ∃ q, ContainerPath withInit t q ∧
        c.path = q ++ names.map .field := by
  have hSelected : ∀ key,
      c ∈ (partExpression chain key names).select t ↔
        ∃ i, c.path = chain.map .field ++
          .field key :: .index i :: names.map .field := by
    intro key
    rw [Expression.mem_select_iff (rooted_partExpression ..) hKeys,
      spells_partExpression_iff]
    exact and_iff_right hOf
  simp only [SelectedPart, hSelected]
  constructor
  · rintro ⟨key, hKey, i, hPath⟩
    refine ⟨chain.map .field ++ [.field key] ++ [.index i],
      ⟨_, i, ⟨_, key, ⟨kind, chain, hKind, hChain, rfl⟩,
        mem_listKeys_iff.mp hKey, rfl⟩, rfl⟩, ?_⟩
    simp [hPath]
  · rintro ⟨_, ⟨_, i, ⟨_, key, ⟨kind', chain', hKind', hChain', rfl⟩,
      hKey, rfl⟩, rfl⟩, hPath⟩
    rw [hKind, Option.some.injEq] at hKind'
    subst hKind'
    rw [hChain, Option.some.injEq] at hChain'
    subst hChain'
    exact ⟨key, mem_listKeys_iff.mpr hKey, i, by simp [hPath]⟩

------------------------------------------------------------
-- Containers on the Way to a Node
------------------------------------------------------------

/- A document with containers is of a kind of the table. -/
theorem ContainerPath.exists_chain
    {p : Path}
    (hPath : ContainerPath withInit t p) :
    ∃ chain, (t.textAt? "kind").bind podSpecChain? = some chain ∧
      p.length = chain.length + 2 := by
  rcases hPath with
    ⟨_, i, ⟨_, key, ⟨kind, chain, hKind, hChain, rfl⟩, _, rfl⟩, rfl⟩
  refine ⟨chain, ?_, by simp⟩
  rw [hKind, Option.bind_some, hChain]

/- No container lies in another one. -/
theorem eq_of_isContainer
    {a b : Cursor}
    (hKeys : t.UniqueKeys)
    (hOf : c.IsOf t)
    (hLeft : a ∈ c :: c.ancestors)
    (hRight : b ∈ c :: c.ancestors)
    (hContainer : isContainer withInit a = true)
    (hContainer' : isContainer withInit b = true) :
    a = b := by
  obtain ⟨hOfLeft, hBelow⟩ := hOf.mem_ancestors_iff.mp hLeft
  obtain ⟨hOfRight, hBelow'⟩ := hOf.mem_ancestors_iff.mp hRight
  obtain ⟨chain, hChain, hLength⟩ :=
    ((isContainer_iff hOfLeft).mp hContainer).2.exists_chain
  obtain ⟨chain', hChain', hLength'⟩ :=
    ((isContainer_iff hOfRight).mp hContainer').2.exists_chain
  rw [hChain, Option.some.injEq] at hChain'
  subst hChain'
  obtain ⟨p, _, hPath, _⟩ := hBelow.extends_keys
  obtain ⟨p', _, hPath', _⟩ := hBelow'.extends_keys
  apply hOfLeft.eq_of_path_eq hOfRight hKeys
  exact (List.append_inj (hPath.symm.trans hPath')
    (hLength.trans hLength'.symm)).1

/- The container of a node is the only one on the way to it. -/
theorem containerOf?_eq_some_iff
    {d : Cursor}
    (hKeys : t.UniqueKeys)
    (hOf : c.IsOf t) :
    containerOf? withInit c = some d ↔
      d ∈ c :: c.ancestors ∧ isContainer withInit d = true := by
  constructor
  · intro hFound
    exact ⟨List.mem_of_find?_eq_some hFound,
      List.find?_some hFound⟩
  · rintro ⟨hWay, hContainer⟩
    cases hFound : containerOf? withInit c with
    | none =>
        have hNone := List.find?_eq_none.mp hFound d hWay
        exact absurd hContainer hNone
    | some e =>
        rw [eq_of_isContainer hKeys hOf
          (List.mem_of_find?_eq_some hFound) hWay
          (List.find?_some hFound) hContainer]

------------------------------------------------------------
-- Both Ways of Telling
------------------------------------------------------------

theorem imagePath_iff {p : Path} :
    ImagePath withInit t p ↔
      ∃ q, ContainerPath withInit t q ∧
        p = q ++ ["image"].map .field := by
  rfl

/- Quantities are at the places further down. -/
theorem quantityPath_iff
    {bound : ResourceBound}
    {resource : ResourceKind}
    {p : Path} :
    QuantityPath bound resource t p ↔
      ∃ q, ContainerPath true t q ∧
        p = q ++
          ["resources", bound.key, resource.key].map .field := by
  constructor
  · rintro ⟨_, ⟨_, ⟨q, hContainer, rfl⟩, rfl⟩, rfl⟩
    exact ⟨q, hContainer, by simp⟩
  · rintro ⟨q, hContainer, rfl⟩
    exact ⟨_, ⟨_, ⟨q, hContainer, rfl⟩, rfl⟩, by simp⟩

/-
  In a document whose kind has a chain, the containers are the
  mappings that the expressions for the items of the lists
  select, and their images and quantities are the texts that
  those for the parts of the items select.
-/
structure ToldBySelection (t : Tree) (chain : List String) :
    Prop where
  container : ∀ c : Cursor, c.IsOf t → ∀ withInit,
    (isContainer withInit c = true ↔
      c.node.isMapping = true ∧ SelectedPart t withInit chain [] c)
  image : ∀ c : Cursor, c.IsOf t → ∀ withInit,
    (isImage withInit c = true ↔
      c.node.text?.isSome = true ∧
        SelectedPart t withInit chain ["image"] c)
  quantity : ∀ c : Cursor, c.IsOf t → ∀ bound resource,
    (isQuantity bound resource c = true ↔
      c.node.text?.isSome = true ∧
        SelectedPart t true chain
          ["resources", bound.key, resource.key] c)

/- A document has no containers, and nothing is a part of one. -/
structure HasNoContainers (t : Tree) : Prop where
  container : ∀ c : Cursor, c.IsOf t → ∀ withInit,
    isContainer withInit c = false
  image : ∀ c : Cursor, c.IsOf t → ∀ withInit,
    isImage withInit c = false
  quantity : ∀ c : Cursor, c.IsOf t → ∀ bound resource,
    isQuantity bound resource c = false

/-
  There is at most one container on the way to a node, and it
  is the container of the node.
-/
structure HasLoneContainers (t : Tree) : Prop where
  unique : ∀ c : Cursor, c.IsOf t → ∀ withInit,
    ∀ a ∈ c :: c.ancestors, ∀ b ∈ c :: c.ancestors,
      isContainer withInit a = true →
        isContainer withInit b = true → a = b
  nearest : ∀ c : Cursor, c.IsOf t → ∀ withInit d,
    (containerOf? withInit c = some d ↔
      d ∈ c :: c.ancestors ∧ isContainer withInit d = true)

theorem toldBySelection
    {kind : String}
    {chain : List String}
    (hKeys : t.UniqueKeys)
    (hKind : t.textAt? "kind" = some kind)
    (hChain : podSpecChain? kind = some chain) :
    ToldBySelection t chain := by
  constructor
  · intro c hOf withInit
    rw [selectedPart_iff hKeys hOf hKind hChain]
    simpa using isContainer_iff hOf
  · intro c hOf withInit
    rw [selectedPart_iff hKeys hOf hKind hChain, isImage_iff hOf,
      imagePath_iff]
  · intro c hOf bound resource
    rw [selectedPart_iff hKeys hOf hKind hChain, isQuantity_iff hOf,
      quantityPath_iff]

theorem hasNoContainers
    (hNone : (t.textAt? "kind").bind podSpecChain? = none) :
    HasNoContainers t := by
  have hNowhere : ∀ withInit p, ¬ ContainerPath withInit t p := by
    intro withInit p hPath
    rcases hPath.exists_chain with ⟨chain, hChain, _⟩
    rw [hNone] at hChain
    cases hChain
  constructor
  · intro c hOf withInit
    rw [← Bool.not_eq_true, isContainer_iff hOf]
    exact fun hContainer => hNowhere _ _ hContainer.2
  · intro c hOf withInit
    rw [← Bool.not_eq_true, isImage_iff hOf, imagePath_iff]
    simp [hNowhere]
  · intro c hOf bound resource
    rw [← Bool.not_eq_true, isQuantity_iff hOf, quantityPath_iff]
    simp [hNowhere]

/-
  What is told upwards about the nodes of a document and what
  is selected downwards agree, in a document of a kind of the
  table.  In other documents nothing is told, and in none is
  there a container within another.
-/
theorem predicates_agree_with_selection
    (t : Tree)
    (hKeys : t.UniqueKeys) :
    (∀ kind chain, t.textAt? "kind" = some kind →
      podSpecChain? kind = some chain → ToldBySelection t chain) ∧
    ((t.textAt? "kind").bind podSpecChain? = none →
      HasNoContainers t) ∧
    HasLoneContainers t := by
  refine ⟨fun _ _ => toldBySelection hKeys, hasNoContainers, ?_, ?_⟩
  · intro c hOf withInit a hLeft b hRight
    exact eq_of_isContainer hKeys hOf hLeft hRight
  · intro c hOf withInit d
    exact containerOf?_eq_some_iff hKeys hOf

/-
  A job whose container has a list of containers of its own,
  next to a list of containers that initialize.
-/
theorem predicates_agree_with_selection_job :
    let container : Tree :=
      .mapping [
        ("image", .string "nginx"),
        ("resources", .mapping [
          ("limits", .mapping [("cpu", .string "500m")])]),
        ("containers", .sequence [
          .mapping [("image", .string "inner")]])]
    let spec : Tree :=
      .mapping [
        ("initContainers", .sequence [container, .string "none"]),
        ("containers", .sequence [container])]
    let t : Tree :=
      .mapping [
        ("kind", .string "Job"),
        ("spec", .mapping [("template", .mapping [("spec", spec)])])]
    let chain := ["spec", "template", "spec"]
    let p : Path := chain.map .field ++ [.field "containers", .index 0]
    let q : Path :=
      chain.map .field ++ [.field "initContainers", .index 0]
    let quantity : Path :=
      [.field "resources", .field "limits", .field "cpu"]
    let places (test : Cursor → Bool) : List Path :=
      ((Cursor.atRoot t).descendants.filter test).map Cursor.path
    t.UniqueKeys ∧ podSpecChain? "Job" = some chain ∧
    ToldBySelection t chain ∧ HasLoneContainers t ∧
    places (isContainer true) = [q, p] ∧
    places (isContainer false) = [p] ∧
    places (isImage true) =
      [q ++ [.field "image"], p ++ [.field "image"]] ∧
    places (isQuantity .limits .cpu) =
      [q ++ quantity, p ++ quantity] := by
  intro container spec t chain p q quantity places
  have hKeys : t.UniqueKeys := by decide
  rcases predicates_agree_with_selection t hKeys with
    ⟨hSelected, _, hLone⟩
  refine ⟨hKeys, rfl, hSelected "Job" chain rfl rfl, hLone, ?_, ?_,
    ?_, ?_⟩
  · decide
  · decide
  · decide
  · decide

end Workload

end ManifestRecipes
