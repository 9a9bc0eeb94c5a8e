import ManifestRecipes.Yaml.Node

/-
  Documents without aliases.

  Every alias is replaced by the node that its anchor marks.
  Two limits keep the result small: collections are nested at
  most 128 deep, and aliases are followed at most a hundred
  times for each step in which the document is read.

  Key definitions include:
    * `Yaml.Content`
    * `Yaml.Content.ofNode`
    * `Yaml.Content.ofText`
-/

namespace ManifestRecipes

namespace Yaml

/- A node whose aliases have been replaced. -/
inductive Content where
  | scalar (tag? : Option String) (style : Style) (text : String)
  | sequence (tag? : Option String) (items : List Content)
  | mapping
      (tag? : Option String)
      (entries : List (Content × Content))
deriving Repr

namespace Content

/- A document that is not written. -/
def absent : Content :=
  .scalar none .plain ""

/- How deep collections may be nested. -/
def depthLimit : Nat :=
  128

/- How often aliases may be followed for each step. -/
def aliasesPerStep : Nat :=
  100

/- Work that counts the aliases that were followed. -/
abbrev Counting :=
  StateT Nat (Except Fault)

/- Follow an alias; other nodes stand for themselves. -/
def follow
    (root : Node)
    (limit : Nat) : Node → Counting Node
  | .alias n => do
      let followed := (← get) + 1
      set followed
      if limit < followed then throw .tooManyAliases
      else
        match root.anchored? n with
        | some target => return target
        | none => throw .unknownAnchor
  | x => return x

/- Replace the aliases below a node, at most `depth` collections deep. -/
def expand
    (root : Node)
    (limit : Nat) : Nat → Node → Counting Content
  | 0, x => do
      match ← follow root limit x with
      | .scalar ps style text =>
          return .scalar ps.tag? style text
      | _ => throw .tooDeep
  | depth + 1, x => do
      match ← follow root limit x with
      | .scalar ps style text =>
          return .scalar ps.tag? style text
      | .sequence ps items => do
          let items ← items.mapM (expand root limit depth)
          return .sequence ps.tag? items
      | .mapping ps entries => do
          let entries ← entries.mapM fun e => do
            let k ← expand root limit depth e.1
            let v ← expand root limit depth e.2
            return (k, v)
          return .mapping ps.tag? entries
      | .alias _ => throw .unknownAnchor

/- The content of a document. -/
def ofNode (root : Node) : Except Fault Content :=
  (expand root (aliasesPerStep * root.size) depthLimit root).run' 0

/-
  The documents of a text.  A text without any stands for one
  document that is not written.
-/
def ofText (text : String) : Except Fault (List Content) := do
  let tokens ← Token.ofText text
  match ← Node.ofTokens tokens with
  | [] => .ok [absent]
  | roots => roots.mapM ofNode

def onlyOfText (text : String) : Except Fault Content := do
  match ← ofText text with
  | [c] => .ok c
  | _ => .error .manyDocuments

end Content

end Yaml

end ManifestRecipes
