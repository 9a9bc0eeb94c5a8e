import ManifestRecipes.Proofs.Tree

/-
  Replacing one node of a tree.

  A node is replaced by rebuilding the nodes above it, which
  keep their keys and lengths.  Nothing is seen of it at paths
  that lead elsewhere, and of two replacements at one path
  only the second is seen at all.

  Key definitions include:
    * `Tree.SameShape`
    * `Tree.Replaced`

  Main declarations:
    * `Tree.lookup?_setAt_self`
    * `Tree.lookup?_setAt_of_apart`
    * `Tree.exists_sameShape_setAt`
    * `Tree.setAt_setAt`
    * `Tree.replaceAt?_exact`
-/

namespace ManifestRecipes

/- Of two values that are set for a key, the second counts. -/
theorem Mapping.insert_insert
    {α : Type}
    (k : String)
    (v w : α)
    (m : Mapping α) :
    insert k w (insert k v m) = insert k w m := by
  induction m with
  | nil => simp [insert]
  | cons e m ih =>
      rcases e with ⟨l, u⟩
      by_cases hKey : l = k <;> simp [insert, hKey, ih]

namespace Tree

variable {t t' c d n m : Tree} {e f : Path.Element} {p q : Path}

------------------------------------------------------------
-- One Step
------------------------------------------------------------

/- The child that was set is found. -/
theorem child?_setChild_self
    (hChild : t.child? e = some c)
    (d : Tree) :
    (t.setChild e d).child? e = some d := by
  rcases child?_eq_some_iff.mp hChild with
    ⟨xs, i, rfl, rfl, hItem⟩ | ⟨es, k, rfl, rfl, _⟩
  · exact List.getElem?_set_self
      (List.getElem?_eq_some_iff.mp hItem).1
  · exact Mapping.get?_insert_self k d es

/- Other steps lead where they led. -/
theorem child?_setChild_of_ne
    (hOther : e ≠ f)
    (t d : Tree) :
    (t.setChild e d).child? f = t.child? f := by
  cases t with
  | scalar s => rfl
  | sequence xs =>
      cases e with
      | field k => rfl
      | index i =>
          cases f with
          | field l => rfl
          | index j =>
              exact List.getElem?_set_ne fun hSame =>
                hOther (congrArg Path.Element.index hSame)
  | mapping es =>
      cases e with
      | index i => rfl
      | field k =>
          cases f with
          | index j => rfl
          | field l =>
              exact Mapping.get?_insert_of_ne fun hSame =>
                hOther (congrArg Path.Element.field hSame.symm)

/- Of two children that are set, the second counts. -/
theorem setChild_setChild
    (t : Tree)
    (e : Path.Element)
    (c d : Tree) :
    (t.setChild e c).setChild e d = t.setChild e d := by
  cases t with
  | scalar s => rfl
  | sequence xs =>
      cases e with
      | field k => rfl
      | index i => simp [setChild]
  | mapping es =>
      cases e with
      | index i => rfl
      | field k => simp [setChild, Mapping.insert_insert]

/- A child with unique keys keeps keys unique. -/
theorem UniqueKeys.setChild
    (hKeys : t.UniqueKeys)
    (e : Path.Element)
    (hNew : d.UniqueKeys) :
    (t.setChild e d).UniqueKeys := by
  cases t with
  | scalar s => exact hKeys
  | sequence xs =>
      cases e with
      | field k => exact hKeys
      | index i =>
          refine uniqueKeys_sequence_iff.mpr fun x hMember => ?_
          rcases List.mem_or_eq_of_mem_set hMember with hOld | rfl
          · exact uniqueKeys_sequence_iff.mp hKeys x hOld
          · exact hNew
  | mapping es =>
      cases e with
      | index i => exact hKeys
      | field k =>
          have hOld := uniqueKeys_mapping_iff.mp hKeys
          refine uniqueKeys_mapping_iff.mpr
            ⟨Mapping.nodup_keys_insert hOld.1, fun l v hEntry => ?_⟩
          rcases Mapping.mem_of_mem_insert hEntry with hSet | hKept
          · cases hSet
            exact hNew
          · exact hOld.2 l v hKept

/-
  Sequences of the same length, or mappings with the same keys
  in the same order.
-/
inductive SameShape : Tree → Tree → Prop where
  | sequence {xs ys : List Tree}
      (hLength : ys.length = xs.length) :
      SameShape (.sequence xs) (.sequence ys)
  | mapping {es fs : Mapping Tree}
      (hKeys : Mapping.keys fs = Mapping.keys es) :
      SameShape (.mapping es) (.mapping fs)

/- A node keeps its shape when one of its children is set. -/
theorem sameShape_setChild
    (hChild : t.child? e = some c)
    (d : Tree) :
    t.SameShape (t.setChild e d) := by
  rcases child?_eq_some_iff.mp hChild with
    ⟨xs, i, rfl, rfl, _⟩ | ⟨es, k, rfl, rfl, hEntry⟩
  · exact .sequence List.length_set
  · apply SameShape.mapping
    apply Mapping.keys_insert_of_mem
    exact Mapping.mem_keys_iff.mpr
      ⟨c, Mapping.mem_of_get?_eq_some hEntry⟩

------------------------------------------------------------
-- A Whole Path
------------------------------------------------------------

/- The node that was set is found. -/
theorem lookup?_setAt_self
    (hNode : t.lookup? p = some n)
    (m : Tree) :
    (t.setAt p m).lookup? p = some m := by
  induction hNode using lookupInduction with
  | here => exact lookup?_nil m
  | step hChild _ _ ih =>
      rw [setAt_cons hChild, lookup?_cons,
        child?_setChild_self hChild, Option.bind_some, ih]

/-
  A path that neither begins with the path of the node nor is
  a beginning of it leads where it led, or nowhere as before.
-/
theorem lookup?_setAt_of_apart
    (hBelow : ¬ p <+: q)
    (hAbove : ¬ q <+: p)
    (t m : Tree) :
    (t.setAt p m).lookup? q = t.lookup? q := by
  induction p generalizing t q with
  | nil => exact absurd List.nil_prefix hBelow
  | cons e p ih =>
      cases q with
      | nil => exact absurd List.nil_prefix hAbove
      | cons f q =>
          cases hChild : t.child? e with
          | none => simp only [setAt, hChild]
          | some c =>
              rw [setAt_cons hChild, lookup?_cons, lookup?_cons]
              by_cases hSame : e = f
              · -- Both paths go on below the same child.
                subst hSame
                rw [List.cons_prefix_cons, and_iff_right rfl]
                  at hBelow hAbove
                rw [child?_setChild_self hChild, hChild,
                  Option.bind_some, Option.bind_some,
                  ih hBelow hAbove]
              · rw [child?_setChild_of_ne hSame]

/- The nodes on the way keep their shapes. -/
theorem exists_sameShape_setAt
    (hNode : t.lookup? p = some n)
    (hPrefix : q <+: p)
    (hAbove : q ≠ p)
    (m : Tree) :
    ∃ s s', t.lookup? q = some s ∧
      (t.setAt p m).lookup? q = some s' ∧ s.SameShape s' := by
  induction hNode using lookupInduction generalizing q with
  | here => exact absurd (List.prefix_nil.mp hPrefix) hAbove
  | @step t c e p hChild _ _ ih =>
      rw [setAt_cons hChild]
      cases q with
      | nil =>
          exact ⟨_, _, lookup?_nil _, lookup?_nil _,
            sameShape_setChild hChild _⟩
      | cons f q =>
          rcases List.cons_prefix_cons.mp hPrefix with ⟨rfl, hRest⟩
          have hShorter : q ≠ p := fun h => hAbove (h ▸ rfl)
          rcases ih hRest hShorter with
            ⟨s, s', hBefore, hAfter, hShape⟩
          refine ⟨s, s', ?_, ?_, hShape⟩
          · rw [lookup?_cons, hChild, Option.bind_some, hBefore]
          · rw [lookup?_cons, child?_setChild_self hChild,
              Option.bind_some, hAfter]

/- Of two nodes that are set at a path, the second counts. -/
theorem setAt_setAt
    (hNode : t.lookup? p = some n)
    (m m' : Tree) :
    (t.setAt p m).setAt p m' = t.setAt p m' := by
  induction hNode using lookupInduction with
  | here => rfl
  | step hChild _ _ ih =>
      rw [setAt_cons hChild, setAt_cons hChild,
        setAt_cons (child?_setChild_self hChild _),
        setChild_setChild, ih]

theorem UniqueKeys.setAt
    (hKeys : t.UniqueKeys)
    (hNode : t.lookup? p = some n)
    (hNew : m.UniqueKeys) :
    (t.setAt p m).UniqueKeys := by
  induction hNode using lookupInduction with
  | here => exact hNew
  | step hChild _ _ ih =>
      rw [setAt_cons hChild]
      exact hKeys.setChild _ (ih (hKeys.child hChild))

------------------------------------------------------------
-- Replacement
------------------------------------------------------------

/-
  A tree is another one with a node replaced.  The new node is
  at its path, paths that lead elsewhere lead to the nodes they
  led to, the nodes above keep their shapes, and where keys are
  unique before they are so afterwards.
-/
structure Replaced (t : Tree) (p : Path) (m t' : Tree) : Prop where
  here : t'.lookup? p = some m
  apart : ∀ q, ¬ p <+: q → ¬ q <+: p →
    t'.lookup? q = t.lookup? q
  above : ∀ q, q <+: p → q ≠ p → ∃ s s',
    t.lookup? q = some s ∧ t'.lookup? q = some s' ∧ s.SameShape s'
  unique : t.UniqueKeys → m.UniqueKeys → t'.UniqueKeys

theorem replaced_setAt
    (hNode : t.lookup? p = some n)
    (m : Tree) :
    t.Replaced p m (t.setAt p m) := by
  exact
    { here := lookup?_setAt_self hNode m
      apart := fun q hBelow hAbove =>
        lookup?_setAt_of_apart hBelow hAbove t m
      above := fun q hPrefix hAbove =>
        exists_sameShape_setAt hNode hPrefix hAbove m
      unique := fun hKeys hNew => hKeys.setAt hNode hNew }

/-
  A node is replaced unless its path leads nowhere or the
  change declines it.  Then the tree has what the change made
  of it in its place and is otherwise the same, and replacing
  it again does to the tree before what it does now.
-/
theorem replaceAt?_exact
    (t : Tree)
    (p : Path)
    (change : Tree → Option Tree) :
    (t.replaceAt? p change = none ↔
      t.lookup? p = none ∨
        ∃ n, t.lookup? p = some n ∧ change n = none) ∧
    ∀ t', t.replaceAt? p change = some t' →
      ∃ n m, t.lookup? p = some n ∧ change n = some m ∧
        t.Replaced p m t' ∧
        ∀ again : Tree → Option Tree,
          t'.replaceAt? p again =
            t.replaceAt? p fun _ => again m := by
  constructor
  · rw [replaceAt?_eq_map, Option.map_eq_none_iff]
    cases t.lookup? p <;> simp
  · intro t' hDone
    rw [replaceAt?_eq_map, Option.map_eq_some_iff] at hDone
    rcases hDone with ⟨m, hChange, rfl⟩
    rcases Option.bind_eq_some_iff.mp hChange with ⟨n, hNode, hNew⟩
    refine ⟨n, m, hNode, hNew, replaced_setAt hNode m, ?_⟩
    intro again
    rw [replaceAt?_eq_map, replaceAt?_eq_map,
      lookup?_setAt_self hNode, hNode, Option.bind_some,
      Option.bind_some]
    exact Option.map_congr fun m' _ => setAt_setAt hNode m m'

/- The name of the second container of a pod is replaced. -/
theorem replaceAt?_exact_pod :
    let pod (name : String) : Tree := .mapping
      [("kind", .string "Pod"), ("spec", .mapping
        [("containers", .sequence
          [.mapping [("name", .string "a")],
            .mapping [("name", .string name)]])])]
    let p : Path := [.field "spec", .field "containers",
      .index 1, .field "name"]
    let rename (n : Tree) : Option Tree :=
      n.text?.map fun text => .string (text ++ "2")
    (pod "b").replaceAt? p rename = some (pod "b2") ∧
    (pod "b").Replaced p (.string "b2") (pod "b2") ∧
    (pod "b2").replaceAt? p rename = some (pod "b22") := by
  intro pod p rename
  have hDone : (pod "b").replaceAt? p rename = some (pod "b2") := by
    decide
  have hOld : (pod "b").lookup? p = some (.string "b") := by decide
  have hMade : rename (.string "b") = some (.string "b2") := by
    decide
  rcases (replaceAt?_exact (pod "b") p rename).2 _ hDone with
    ⟨n, m, hNode, hNew, hReplaced, hAgain⟩
  obtain rfl : .string "b" = n :=
    Option.some.inj (hOld.symm.trans hNode)
  obtain rfl : .string "b2" = m :=
    Option.some.inj (hMade.symm.trans hNew)
  refine ⟨hDone, hReplaced, ?_⟩
  rw [hAgain]
  decide

end Tree

end ManifestRecipes
