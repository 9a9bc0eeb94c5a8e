import ManifestRecipes.Proofs.Mapping
import ManifestRecipes.Tree

/-
  Laws of lookup and replacement in trees.

  Main declarations:
    * `Tree.induction`
    * `Tree.uniqueKeys_mapping_iff`
    * `Tree.lookup?_append`
    * `Tree.lookupInduction`
    * `Tree.setAt`
    * `Tree.replaceAt?_eq_map`
    * `Tree.setAt_self`
-/

namespace ManifestRecipes

namespace Tree

------------------------------------------------------------
-- Induction
------------------------------------------------------------

/-
  What holds of scalars, and of collections when it holds of
  what they contain, holds of all trees.
-/
@[elab_as_elim]
theorem induction
    {P : Tree → Prop}
    (scalar : ∀ s, P (.scalar s))
    (sequence : ∀ xs, (∀ x ∈ xs, P x) → P (.sequence xs))
    (mapping :
      ∀ es, (∀ k v, (k, v) ∈ es → P v) → P (.mapping es))
    (t : Tree) : P t := by
  refine
    @Tree.rec P (fun xs => ∀ x ∈ xs, P x)
      (fun es => ∀ k v, (k, v) ∈ es → P v) (fun e => P e.2)
      scalar sequence mapping ?_ ?_ ?_ ?_ ?_ t
  · simp
  · intro x xs hHead hTail
    simpa using ⟨hHead, hTail⟩
  · simp
  · intro e es hHead hTail k v hEntry
    rcases List.mem_cons.mp hEntry with rfl | hLater
    · exact hHead
    · exact hTail k v hLater
  · intro _ _ hValue
    exact hValue

------------------------------------------------------------
-- Unique Keys
------------------------------------------------------------

@[simp] theorem uniqueKeys_scalar (s : Scalar) :
    (Tree.scalar s).UniqueKeys := by
  simp [UniqueKeys, uniqueKeys]

theorem uniqueKeys_sequence_iff {xs : List Tree} :
    (Tree.sequence xs).UniqueKeys ↔
      ∀ x ∈ xs, x.UniqueKeys := by
  change uniqueItems xs = true ↔ _
  induction xs with
  | nil => simp [uniqueItems]
  | cons x xs ih => simp [uniqueItems, UniqueKeys, ih]

/-
  A mapping has unique keys when its own are pairwise
  different and its values have unique keys.
-/
theorem uniqueKeys_mapping_iff {es : Mapping Tree} :
    (Tree.mapping es).UniqueKeys ↔
      (Mapping.keys es).Nodup ∧
        ∀ k v, (k, v) ∈ es → v.UniqueKeys := by
  change uniqueEntries es = true ↔ _
  induction es with
  | nil => simp [uniqueEntries]
  | cons e es ih =>
      rcases e with ⟨k, v⟩
      simp only [uniqueEntries, Bool.and_eq_true,
        Bool.not_eq_true', ih, Mapping.keys_cons,
        List.nodup_cons, List.mem_cons, Prod.mk.injEq]
      have hContains :
          (es.map Prod.fst).contains k = false ↔
            k ∉ Mapping.keys es := by
        simp [Mapping.keys]
      rw [hContains]
      constructor
      · rintro ⟨⟨hKey, hValue⟩, hKeys, hValues⟩
        refine ⟨⟨hKey, hKeys⟩, ?_⟩
        rintro l w (⟨rfl, rfl⟩ | hLater)
        · exact hValue
        · exact hValues l w hLater
      · rintro ⟨⟨hKey, hKeys⟩, hValues⟩
        exact
          ⟨⟨hKey, hValues k v (Or.inl ⟨rfl, rfl⟩)⟩, hKeys,
            fun l w hLater => hValues l w (Or.inr hLater)⟩

------------------------------------------------------------
-- Texts
------------------------------------------------------------

theorem text?_eq_some_iff
    {n : Tree}
    {text : String} :
    n.text? = some text ↔
      ∃ s, n = .scalar s ∧ s.isNull = false ∧ s.text = text := by
  cases n with
  | scalar s => simp [Tree.text?]
  | sequence xs => simp [Tree.text?]
  | mapping es => simp [Tree.text?]

------------------------------------------------------------
-- Lookup
------------------------------------------------------------

@[simp] theorem lookup?_nil (t : Tree) :
    t.lookup? [] = some t := by
  cases t <;> rfl

theorem lookup?_cons
    (t : Tree)
    (e : Path.Element)
    (p : Path) :
    t.lookup? (e :: p) = (t.child? e).bind (·.lookup? p) := by
  rw [lookup?]
  cases t.child? e <;> rfl

/- A joined path leads on from where its first part leads. -/
theorem lookup?_append
    (t : Tree)
    (p q : Path) :
    t.lookup? (p ++ q) =
      (t.lookup? p).bind (·.lookup? q) := by
  induction p generalizing t with
  | nil => simp
  | cons e p ih =>
      rw [List.cons_append, lookup?_cons, lookup?_cons]
      cases t.child? e with
      | none => rfl
      | some c => simpa using ih c

@[simp] theorem lookup?_singleton
    (t : Tree)
    (e : Path.Element) :
    t.lookup? [e] = t.child? e := by
  rw [lookup?_cons]
  cases t.child? e <;> simp

theorem get?_eq_child?
    (t : Tree)
    (key : String) :
    t.get? key = t.child? (.field key) := by
  cases t <;> rfl

/- A step leads to an item of a sequence or an entry of a mapping. -/
theorem child?_eq_some_iff
    {t c : Tree}
    {e : Path.Element} :
    t.child? e = some c ↔
      (∃ xs i, t = .sequence xs ∧ e = .index i ∧
        xs[i]? = some c) ∨
      ∃ es k, t = .mapping es ∧ e = .field k ∧
        Mapping.get? k es = some c := by
  cases t <;> cases e <;> simp [child?]

theorem UniqueKeys.child
    {t c : Tree}
    {e : Path.Element}
    (hKeys : t.UniqueKeys)
    (hChild : t.child? e = some c) :
    c.UniqueKeys := by
  rcases child?_eq_some_iff.mp hChild with
    ⟨xs, i, rfl, rfl, hItem⟩ | ⟨es, k, rfl, rfl, hEntry⟩
  · exact uniqueKeys_sequence_iff.mp hKeys c
      (List.mem_of_getElem? hItem)
  · exact (uniqueKeys_mapping_iff.mp hKeys).2 k c
      (Mapping.mem_of_get?_eq_some hEntry)

/-
  What holds of a node and of a tree as soon as it holds of one
  of its children holds of every tree with a path to the node.
-/
@[elab_as_elim]
theorem lookupInduction
    {n : Tree}
    {motive : (t : Tree) → (p : Path) →
      t.lookup? p = some n → Prop}
    (here : motive n [] (lookup?_nil n))
    (step : ∀ {t c : Tree} {e : Path.Element} {p : Path},
      t.child? e = some c →
        ∀ (hBelow : c.lookup? p = some n)
          (hNode : t.lookup? (e :: p) = some n),
          motive c p hBelow → motive t (e :: p) hNode)
    {t : Tree}
    {p : Path}
    (hNode : t.lookup? p = some n) :
    motive t p hNode := by
  induction p generalizing t with
  | nil =>
      obtain rfl : t = n := by simpa using hNode
      exact here
  | cons e p ih =>
      have hSteps := hNode
      rw [lookup?_cons, Option.bind_eq_some_iff] at hSteps
      rcases hSteps with ⟨c, hChild, hBelow⟩
      exact step hChild hBelow hNode (ih hBelow)

theorem UniqueKeys.lookup
    {t n : Tree}
    {p : Path}
    (hKeys : t.UniqueKeys)
    (hNode : t.lookup? p = some n) :
    n.UniqueKeys := by
  induction hNode using lookupInduction with
  | here => exact hKeys
  | step hChild _ _ ih => exact ih (hKeys.child hChild)

------------------------------------------------------------
-- Replacement
------------------------------------------------------------

/- The tree with another child where a step leads. -/
def setChild (t : Tree) (e : Path.Element) (c : Tree) : Tree :=
  match t, e with
  | .mapping es, .field k => .mapping (Mapping.insert k c es)
  | .sequence xs, .index i => .sequence (xs.set i c)
  | t, _ => t

/- The tree with another node where a path leads. -/
def setAt (t : Tree) : Path → Tree → Tree
  | [], n => n
  | e :: p, n =>
      match t.child? e with
      | some c => t.setChild e (c.setAt p n)
      | none => t

theorem updateItem?_eq_map
    (change : Tree → Option Tree)
    (i : Nat)
    (xs : List Tree) :
    updateItem? change i xs =
      (xs[i]?.bind change).map (xs.set i ·) := by
  induction xs generalizing i with
  | nil => simp [updateItem?]
  | cons x xs ih =>
      cases i with
      | zero => simp [updateItem?]
      | succ i =>
          rw [updateItem?, ih i, Option.map_map]
          rfl

/- A child is changed in its place. -/
theorem updateChild?_eq_map
    (t : Tree)
    (e : Path.Element)
    (change : Tree → Option Tree) :
    t.updateChild? e change =
      ((t.child? e).bind change).map (t.setChild e) := by
  cases t with
  | scalar s => cases e <;> rfl
  | sequence xs =>
      cases e with
      | field k => rfl
      | index i =>
          simp only [updateChild?, updateItem?_eq_map,
            Option.map_map, child?]
          rfl
  | mapping es =>
      cases e with
      | index i => rfl
      | field k =>
          simp only [updateChild?, Mapping.update?_eq_map,
            Option.map_map, child?]
          rfl

/- The node where a path leads is changed in its place. -/
theorem replaceAt?_eq_map
    (t : Tree)
    (p : Path)
    (change : Tree → Option Tree) :
    t.replaceAt? p change =
      ((t.lookup? p).bind change).map (t.setAt p) := by
  induction p generalizing t with
  | nil =>
      simp only [replaceAt?, lookup?_nil, Option.bind_some]
      cases change t <;> rfl
  | cons e p ih =>
      rw [replaceAt?, updateChild?_eq_map, lookup?_cons]
      cases hChild : t.child? e with
      | none => rfl
      | some c =>
          simp only [Option.bind_some, ih c, Option.map_map]
          cases (c.lookup? p).bind change with
          | none => rfl
          | some n => simp [setAt, hChild]

/- A child that is put back changes nothing. -/
theorem setChild_self
    {t c : Tree}
    {e : Path.Element}
    (hChild : t.child? e = some c) :
    t.setChild e c = t := by
  rcases child?_eq_some_iff.mp hChild with
    ⟨xs, i, rfl, rfl, hItem⟩ | ⟨es, k, rfl, rfl, hEntry⟩
  · rcases List.getElem?_eq_some_iff.mp hItem with ⟨hLt, rfl⟩
    rw [setChild, List.set_getElem_self]
  · rw [setChild, Mapping.insert_self hEntry]

/- The first step of a path rebuilds the node it leads from. -/
theorem setAt_cons
    {t c : Tree}
    {e : Path.Element}
    (hChild : t.child? e = some c)
    (p : Path)
    (m : Tree) :
    t.setAt (e :: p) m = t.setChild e (c.setAt p m) := by
  simp only [setAt, hChild]

/- A node that is put back changes nothing. -/
theorem setAt_self
    {t n : Tree}
    {p : Path}
    (hNode : t.lookup? p = some n) :
    t.setAt p n = t := by
  induction hNode using lookupInduction with
  | here => rfl
  | step hChild _ _ ih =>
      rw [setAt_cons hChild, ih, setChild_self hChild]

end Tree

end ManifestRecipes
