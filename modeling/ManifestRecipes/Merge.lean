import ManifestRecipes.Cursor

/-
  Merging a fragment into the nodes of a tree.

  The entries of the fragment are added to a mapping that
  lacks their keys, or to each mapping in a sequence.  What
  is present stays as it is.

  Key definitions include:
    * `Addition`
    * `Merge.intoMapping`
    * `Merge.intoNode`
    * `Merge.into`
-/

namespace ManifestRecipes

/- A key that was added to the mapping at a path. -/
structure Addition where
  path : Path
  key : String
deriving DecidableEq, Repr

/- A merged tree with what was added to it. -/
structure Merge where
  tree : Tree
  additions : List Addition
deriving DecidableEq

namespace Merge

/- Something was added. -/
def changed (m : Merge) : Bool :=
  !m.additions.isEmpty

/-
  Add the entries of a fragment to a mapping, with the keys
  that were added.
-/
def intoMapping
    (target : Mapping Tree) :
    Mapping Tree → Mapping Tree × List String
  | [] => (target, [])
  | (k, v) :: fragment =>
      match Mapping.appendIfAbsent k v target with
      | (target, true) =>
          let (merged, keys) := intoMapping target fragment
          (merged, k :: keys)
      | (target, false) => intoMapping target fragment

/- Add the entries of a fragment to a node if it is a mapping. -/
def intoItem
    (fragment : Mapping Tree)
    (path : Path)
    (t : Tree) : Merge :=
  match t with
  | .mapping es =>
      let (merged, keys) := intoMapping es fragment
      ⟨.mapping merged, keys.map (Addition.mk path)⟩
  | _ => ⟨t, []⟩

/- Add the entries of a fragment to the mappings among items. -/
def intoItems
    (fragment : Mapping Tree)
    (path : Path) : Nat → List Tree → List Tree × List Addition
  | _, [] => ([], [])
  | i, x :: xs =>
      let m := intoItem fragment (path ++ [.index i]) x
      let (ys, more) := intoItems fragment path (i + 1) xs
      (m.tree :: ys, m.additions ++ more)

/- Add the entries of a fragment to a mapping or to the mappings in a sequence. -/
def intoNode
    (fragment : Mapping Tree)
    (path : Path)
    (t : Tree) : Merge :=
  match t with
  | .mapping _ => intoItem fragment path t
  | .sequence xs =>
      let (ys, added) := intoItems fragment path 0 xs
      ⟨.sequence ys, added⟩
  | .scalar _ => ⟨t, []⟩

/- Merge a fragment into the node at a path, if there is one. -/
def intoTarget
    (fragment : Mapping Tree)
    (t : Tree)
    (path : Path) : Merge :=
  match t.lookup? path with
  | some node =>
      let m := intoNode fragment path node
      if m.changed then
        ⟨(t.replaceAt? path fun _ => some m.tree).getD t,
          m.additions⟩
      else ⟨t, []⟩
  | none => ⟨t, []⟩

/- Merge a fragment into the nodes at some paths, one after the other. -/
def into
    (fragment : Mapping Tree)
    (t : Tree) : List Path → Merge
  | [] => ⟨t, []⟩
  | path :: paths =>
      let m := intoTarget fragment t path
      let rest := into fragment m.tree paths
      ⟨rest.tree, m.additions ++ rest.additions⟩

/- Merge a fragment into the nodes under cursors. -/
def intoCursors
    (fragment : Mapping Tree)
    (t : Tree)
    (cs : List Cursor) : Merge :=
  into fragment t (cs.map Cursor.path)

end Merge

end ManifestRecipes
