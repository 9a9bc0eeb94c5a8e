import ManifestRecipes.Mapping
import ManifestRecipes.Yaml.Token

/-
  The nodes of a YAML text as they are written.

  A text is a sequence of documents, and a document is one
  node.  Anchors are numbered in the order of the text and
  aliases refer to the numbers.

  Key definitions include:
    * `Yaml.Node`
    * `Yaml.Node.parse`
    * `Yaml.Node.ofTokens`
    * `Yaml.Node.anchored?`
-/

namespace ManifestRecipes

namespace Yaml

/- What is written about a node before its content. -/
structure Properties where
  anchor? : Option Nat
  tag? : Option String
deriving DecidableEq, Repr

/- A node of a document. -/
inductive Node where
  | alias (number : Nat)
  | scalar (ps : Properties) (style : Style) (text : String)
  | sequence (ps : Properties) (items : List Node)
  | mapping (ps : Properties) (entries : List (Node × Node))
deriving Repr

namespace Node

------------------------------------------------------------
-- Parsing State
------------------------------------------------------------

/- The rest of the tokens and the names that have a meaning. -/
structure Parsing where
  tokens : List Token
  anchors : Mapping Nat
  handles : List (String × String)

abbrev Parse :=
  StateT Parsing (Except Fault)

def peek : Parse (Option Token) := do
  return (← get).tokens.head?

def pass : Parse Unit :=
  modify fun s => { s with tokens := s.tokens.drop 1 }

/- The next token is one of the given ones. -/
def at? (ts : List Token) : Parse Bool := do
  match ← peek with
  | some t => return ts.contains t
  | none => return false

/- Pass over a token if it is next, and tell whether it was. -/
def accept (t : Token) : Parse Bool := do
  if ← at? [t] then
    pass
    return true
  else return false

/- The number of a new anchor is the number of names before it. -/
def number (name : String) : Parse Nat := do
  let s ← get
  let n := s.anchors.length
  set { s with anchors := Mapping.insert name n s.anchors }
  return n

/- A node that is not written. -/
def absent : Node :=
  .scalar ⟨none, none⟩ .plain ""

------------------------------------------------------------
-- Properties
------------------------------------------------------------

/- Read an anchor, if one is next. -/
def anchor? : Parse (Option Nat) := do
  match ← peek with
  | some (.anchor name) =>
      pass
      return some (← number name)
  | _ => return none

/- Read a tag, if one is next. -/
def tag? : Parse (Option String) := do
  match ← peek with
  | some (.tag t) =>
      pass
      return some (← t.resolve (← get).handles)
  | _ => return none

/- Read an anchor and a tag in either order. -/
def properties : Parse Properties := do
  match ← anchor? with
  | some n => return ⟨some n, ← tag?⟩
  | none =>
      let t? ← tag?
      return ⟨← anchor?, t?⟩

/- A lone exclamation mark is no tag for a scalar. -/
def scalarProperties (ps : Properties) : Properties :=
  { ps with tag? := ps.tag?.filter (· ≠ "!") }

------------------------------------------------------------
-- Nodes
------------------------------------------------------------

mutual

/-
  Read a node.  Block collections may start only in a block,
  and an entry without a block of its own only where
  `indentless` says so.  The first argument bounds the steps.
-/
def parse : Nat → Bool → Bool → Parse Node
  | 0, _, _ => throw .tooDeep
  | fuel + 1, block, indentless => do
      match ← peek with
      | some (.alias name) =>
          pass
          match Mapping.get? name (← get).anchors with
          | some n => return .alias n
          | none => throw .unknownAnchor
      | _ =>
          let ps ← properties
          content fuel block indentless ps

/- Read the content of a node. -/
def content :
    Nat → Bool → Bool → Properties → Parse Node
  | 0, _, _, _ => throw .tooDeep
  | fuel + 1, block, indentless, ps => do
      match ← peek, block, indentless with
      | some .entry, _, true =>
          return .sequence ps (← indentlessItems fuel)
      | some (.scalar style text), _, _ =>
          pass
          return .scalar (scalarProperties ps) style text
      | some .openFlowSequence, _, _ =>
          pass
          return .sequence ps (← flowItems fuel true)
      | some .openFlowMapping, _, _ =>
          pass
          return .mapping ps (← flowEntries fuel true)
      | some .openBlockSequence, true, _ =>
          pass
          return .sequence ps (← blockItems fuel)
      | some .openBlockMapping, true, _ =>
          pass
          return .mapping ps (← blockEntries fuel)
      | _, _, _ =>
          if ps.anchor?.isSome || ps.tag?.isSome then
            return .scalar ps .plain ""
          else throw .nodeContent

/- Read a node of a block unless one of the given tokens is next. -/
def blockNode : Nat → Bool → List Token → Parse Node
  | 0, _, _ => throw .tooDeep
  | fuel + 1, indentless, ends => do
      if ← at? ends then return absent
      else parse fuel true indentless

/- Read a node of a flow unless one of the given tokens is next. -/
def flowNode : Nat → List Token → Parse Node
  | 0, _ => throw .tooDeep
  | fuel + 1, ends => do
      if ← at? ends then return absent
      else parse fuel false false

/- Read the entries of a block sequence. -/
def blockItems : Nat → Parse (List Node)
  | 0 => throw .tooDeep
  | fuel + 1 => do
      if ← accept .closeBlock then return []
      else if ← accept .entry then
        let x ← blockNode fuel false [.entry, .closeBlock]
        return x :: (← blockItems fuel)
      else throw .sequenceEntry

/- Read entries that stand at the indentation of their key. -/
def indentlessItems : Nat → Parse (List Node)
  | 0 => throw .tooDeep
  | fuel + 1 => do
      if ← accept .entry then
        let x ← blockNode fuel false
          [.entry, .key, .value, .closeBlock]
        return x :: (← indentlessItems fuel)
      else return []

/- Read the entries of a block mapping. -/
def blockEntries : Nat → Parse (List (Node × Node))
  | 0 => throw .tooDeep
  | fuel + 1 => do
      if ← accept .closeBlock then return []
      else if ← accept .key then
        let ends := [.key, .value, .closeBlock]
        let k ← blockNode fuel true ends
        let v ←
          if ← accept .value then blockNode fuel true ends
          else pure absent
        return (k, v) :: (← blockEntries fuel)
      else throw .mappingKey

/-
  Read the items of a flow sequence.  A key among them stands
  for a mapping with one entry.
-/
def flowItems : Nat → Bool → Parse (List Node)
  | 0, _ => throw .tooDeep
  | fuel + 1, first => do
      if ← accept .closeFlowSequence then return []
      else
        if !first then
          if !(← accept .comma) then throw .flowEntry
        if ← accept .key then
          let e ← flowPair fuel
          return .mapping ⟨none, none⟩ [e] ::
            (← flowItems fuel false)
        else if ← accept .closeFlowSequence then return []
        else
          let x ← parse fuel false false
          return x :: (← flowItems fuel false)

/-
  Read the only entry of a mapping in a flow sequence.  Where
  its key is missing, the token in its place is passed over.
-/
def flowPair : Nat → Parse (Node × Node)
  | 0 => throw .tooDeep
  | fuel + 1 => do
      let k ←
        if ← at? [.value, .comma, .closeFlowSequence] then do
          pass
          pure absent
        else parse fuel false false
      let v ←
        if ← accept .value then
          flowNode fuel [.comma, .closeFlowSequence]
        else pure absent
      return (k, v)

/- Read the entries of a flow mapping. -/
def flowEntries : Nat → Bool → Parse (List (Node × Node))
  | 0, _ => throw .tooDeep
  | fuel + 1, first => do
      if ← accept .closeFlowMapping then return []
      else
        if !first then
          if !(← accept .comma) then throw .flowEntry
        if ← accept .key then
          let k ← flowNode fuel [.value, .comma, .closeFlowMapping]
          let v ←
            if ← accept .value then
              flowNode fuel [.comma, .closeFlowMapping]
            else pure absent
          return (k, v) :: (← flowEntries fuel false)
        else if ← accept .closeFlowMapping then return []
        else
          let k ← parse fuel false false
          return (k, absent) :: (← flowEntries fuel false)

end

------------------------------------------------------------
-- Documents
------------------------------------------------------------

/- Add a directive; none may be repeated. -/
def addDirective
    (versioned : Bool)
    (handles : List (String × String)) :
    Directive → Except Fault (Bool × List (String × String))
  | .version major minor =>
      if versioned then .error .repeatedDirective
      else if major = 1 && (minor = 1 || minor = 2) then
        .ok (true, handles)
      else .error .version
  | .handle name meaning =>
      if handles.any (·.1 = name) then .error .repeatedDirective
      else .ok (versioned, handles ++ [(name, meaning)])

/- Read the directives of a list of tokens. -/
def directives
    (versioned : Bool)
    (handles : List (String × String)) :
    List Token →
      Except Fault (List (String × String) × List Token)
  | .directive d :: ts => do
      let (versioned, handles) ← addDirective versioned handles d
      directives versioned handles ts
  | ts => .ok (handles, ts)

/- Read the root of a document. -/
def root (tokens : List Token) : Parse Node :=
  parse (4 * tokens.length + 4) true false

/- The tokens begin with directives or a document marker. -/
def isExplicit : List Token → Bool
  | .directive _ :: _ => true
  | .documentStart :: _ => true
  | _ => false

/- The content of the document ends before it begins. -/
def isBare : List Token → Bool
  | [] => true
  | .documentEnd :: _ => true
  | ts => isExplicit ts

/-
  Read one document.  Only the first may do without a marker,
  so `first` says whether it is.
-/
def document
    (first : Bool)
    (tokens : List Token) : Except Fault (Node × List Token) :=
  if first && !isExplicit tokens then do
    let (x, s) ← (root tokens).run ⟨tokens, [], Tag.defaultHandles⟩
    .ok (x, s.tokens)
  else do
    let (handles, ts) ← directives false [] tokens
    match ts with
    | .documentStart :: ts =>
        if isBare ts then .ok (absent, ts)
        else
          let (x, s) ←
            (root ts).run ⟨ts, [], handles ++ Tag.defaultHandles⟩
          .ok (x, s.tokens)
    | _ => .error .documentStart

/- Read all documents. -/
def documents :
    Nat → Bool → List Token → Except Fault (List Node)
  | 0, _, _ => .ok []
  | fuel + 1, first, tokens => do
      let tokens :=
        if first then tokens
        else tokens.dropWhile (· = .documentEnd)
      if tokens.isEmpty then .ok []
      else
        let (x, ts) ← document first tokens
        let xs ← documents fuel false ts
        .ok (x :: xs)

/- The documents of a text, each as its root node. -/
def ofTokens (tokens : List Token) : Except Fault (List Node) :=
  documents (tokens.length + 1) true tokens

------------------------------------------------------------
-- Anchors
------------------------------------------------------------

mutual

/- The anchored nodes, each before those inside it. -/
def anchors : Node → List (Nat × Node)
  | .alias _ => []
  | .scalar ps style text =>
      ps.anchor?.toList.map (·, .scalar ps style text)
  | .sequence ps items =>
      ps.anchor?.toList.map (·, .sequence ps items) ++
        itemAnchors items
  | .mapping ps entries =>
      ps.anchor?.toList.map (·, .mapping ps entries) ++
        entryAnchors entries

def itemAnchors : List Node → List (Nat × Node)
  | [] => []
  | x :: xs => anchors x ++ itemAnchors xs

def entryAnchors : List (Node × Node) → List (Nat × Node)
  | [] => []
  | (k, v) :: es => anchors k ++ anchors v ++ entryAnchors es

end

/- The last node with a number. -/
def anchored? (root : Node) (number : Nat) : Option Node :=
  (root.anchors.reverse.find? (·.1 = number)).map Prod.snd

mutual

/- The number of steps in which a node is read. -/
def size : Node → Nat
  | .alias _ => 1
  | .scalar _ _ _ => 1
  | .sequence _ items => 2 + itemsSize items
  | .mapping _ entries => 2 + entriesSize entries

/- The number of steps in which items are read. -/
def itemsSize : List Node → Nat
  | [] => 0
  | x :: xs => size x + itemsSize xs

/- The number of steps in which entries are read. -/
def entriesSize : List (Node × Node) → Nat
  | [] => 0
  | (k, v) :: es => size k + size v + entriesSize es

end

end Node

end Yaml

end ManifestRecipes
