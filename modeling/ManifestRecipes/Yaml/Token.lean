import ManifestRecipes.Yaml.Tag
import ManifestRecipes.Yaml.Text.Block
import ManifestRecipes.Yaml.Text.Plain
import ManifestRecipes.Yaml.Text.Quoted

/-
  The tokens of a YAML text.

  Indentation is turned into tokens: deeper lines open a block
  collection, shallower ones close those that are deeper.  A
  key may be recognized only at the value indicator behind
  it, so its token is put in front of what was already read.

  Key definitions include:
    * `Yaml.Token`
    * `Yaml.Scanner`
    * `Yaml.Scanner.next`
    * `Yaml.Token.ofText`
-/

namespace ManifestRecipes

namespace Yaml

------------------------------------------------------------
-- Tokens
------------------------------------------------------------

/- How a scalar was written. -/
inductive Style where
  | plain
  | quoted
  | block
deriving DecidableEq, Repr

/- The tokens. -/
inductive Token where
  | directive (d : Directive)
  | documentStart
  | documentEnd
  | openBlockSequence
  | openBlockMapping
  | closeBlock
  | openFlowSequence
  | closeFlowSequence
  | openFlowMapping
  | closeFlowMapping
  | entry
  | comma
  | key
  | value
  | anchor (name : String)
  | alias (name : String)
  | tag (t : Tag)
  | scalar (style : Style) (text : String)
deriving DecidableEq, Repr

------------------------------------------------------------
-- Scanning State
------------------------------------------------------------

/- A place where a key may have started. -/
structure PossibleKey where
  /- Nothing but a key may start here. -/
  required : Bool
  /- The number of tokens before it. -/
  number : Nat
  index : Nat
  line : Nat
  column : Nat
deriving DecidableEq, Repr

/-
  The state between two tokens.  Tokens stand latest first;
  possible keys stand one for each open flow collection and
  one for the block around them.
-/
structure Scanner where
  position : Position
  tokens : List Token
  /- The column of the current block; below zero outside all blocks. -/
  indent : Int
  /- The columns of the blocks around it. -/
  indents : List Int
  /- A key without indicator may start here. -/
  keyAllowed : Bool
  keys : List (Option PossibleKey)

namespace Scanner

def start (text : List Char) : Scanner :=
  ⟨Position.start text, [], -1, [], true, [none]⟩

/- The number of flow collections that are open. -/
def flowDepth (s : Scanner) : Nat :=
  s.keys.length - 1

/- Inside a flow collection. -/
def inFlow (s : Scanner) : Bool :=
  s.flowDepth != 0

def column (s : Scanner) : Int :=
  s.position.column

def push (s : Scanner) (t : Token) : Scanner :=
  { s with tokens := t :: s.tokens }

/- Put a token behind the first `number` ones. -/
def insert (s : Scanner) (number : Nat) (t : Token) : Scanner :=
  let after := s.tokens.length - number
  { s with
    tokens := s.tokens.take after ++ t :: s.tokens.drop after }

def move (s : Scanner) (n : Nat) : Scanner :=
  { s with position := s.position.move n }

def allowKey (s : Scanner) (allowed : Bool) : Scanner :=
  { s with keyAllowed := allowed }

------------------------------------------------------------
-- Indentation
------------------------------------------------------------

/- Open a block at a column if it is deeper than the current one. -/
def openBlock
    (s : Scanner)
    (column : Int)
    (number : Nat)
    (t : Token) : Scanner :=
  if !s.inFlow && s.indent < column then
    { s.insert number t with
      indent := column
      indents := s.indent :: s.indents }
  else s

def openBlockHere (s : Scanner) (t : Token) : Scanner :=
  s.openBlock s.column s.tokens.length t

/- Close blocks, the given ones being those around the current. -/
def closeAbove (column : Int) : List Int → Scanner → Scanner
  | outer :: rest, s =>
      if column < s.indent then
        closeAbove column rest
          { s.push .closeBlock with indent := outer, indents := rest }
      else s
  | [], s => s

def closeBlocks (s : Scanner) (column : Int) : Scanner :=
  if s.inFlow then s else closeAbove column s.indents s

------------------------------------------------------------
-- Possible Keys
------------------------------------------------------------

/- Give up a possible key. -/
def abandon : Option PossibleKey → Except Fault (Option PossibleKey)
  | some k => if k.required then .error .openKey else .ok none
  | none => .ok none

/- A key stands on one line and is at most 1024 characters long. -/
def outOfReach (p : Position) (k : PossibleKey) : Bool :=
  k.line < p.line || k.index + 1024 < p.index

/- Give up the possible keys that are out of reach. -/
def dropStale
    (p : Position) :
    List (Option PossibleKey) →
      Except Fault (List (Option PossibleKey))
  | [] => .ok []
  | k? :: ks => do
      let k? ←
        if k?.any (outOfReach p) then abandon k? else .ok k?
      let ks ← dropStale p ks
      .ok (k? :: ks)

/- Give up the possible key of the innermost collection. -/
def dropKey (s : Scanner) : Except Fault Scanner :=
  match s.keys with
  | k? :: ks => do
      let k? ← abandon k?
      .ok { s with keys := k? :: ks }
  | [] => .ok s

/- Remember that a key may start here. -/
def noteKey (s : Scanner) : Except Fault Scanner :=
  if s.keyAllowed then do
    let s ← s.dropKey
    let p := s.position
    let k : PossibleKey :=
      ⟨!s.inFlow && s.indent = s.column, s.tokens.length,
        p.index, p.line, p.column⟩
    .ok { s with keys := some k :: s.keys.drop 1 }
  else .ok s

------------------------------------------------------------
-- Space between Tokens
------------------------------------------------------------

/-
  Skip blanks, comments and line ends.  A new line outside
  flow collections allows a key; tabs are skipped only where
  they cannot be indentation.
-/
def skipSpace : Nat → Scanner → Scanner
  | 0, s => s
  | fuel + 1, s =>
      let p := s.position
      let p :=
        if p.index = 0 && p.rest.head? = some byteOrderMark then
          p.move 1
        else p
      let tabs := s.inFlow || !s.keyAllowed
      let p := p.skip fun c => c = ' ' || (tabs && c = '\t')
      let p := if p.rest.head? = some '#' then p.skipLine else p
      if !p.rest.isEmpty && p.atBreak then
        skipSpace fuel
          { s with
            position := p.nextLine
            keyAllowed := !s.inFlow || s.keyAllowed }
      else { s with position := p }

------------------------------------------------------------
-- Single Tokens
------------------------------------------------------------

/- A token that may start a key. -/
def atom
    (s : Scanner)
    (read : Position → Except Fault (Token × Position)) :
    Except Fault Scanner := do
  let s ← s.noteKey
  let (t, p) ← read s.position
  .ok ({ s with position := p, keyAllowed := false }.push t)

/- Read the name of an anchor or an alias. -/
def anchorName (p : Position) : Except Fault (String × Position) :=
  let (name, q) := (p.move 1).span isWord
  if !name.isEmpty &&
      (q.atGap || q.rest.head?.any (· ∈ "?:,]\x7d%@\u0060".toList)) then
    .ok (String.ofList name, q)
  else .error .anchor

/- A directive ends all blocks. -/
def directive (s : Scanner) : Except Fault Scanner := do
  let s ← (s.closeBlocks (-1)).dropKey
  let (d, p) ← Directive.read s.position
  .ok ({ s with position := p, keyAllowed := false }.push
    (.directive d))

/- A document marker ends all blocks. -/
def documentMarker (s : Scanner) (t : Token) : Except Fault Scanner := do
  let s ← (s.closeBlocks (-1)).dropKey
  .ok (((s.allowKey false).move 3).push t)

/- The start of a flow collection may start a key. -/
def openFlow (s : Scanner) (t : Token) : Except Fault Scanner := do
  let s ← s.noteKey
  .ok (({ s with keys := none :: s.keys, keyAllowed := true }.move
    1).push t)

/- The end of a flow collection. -/
def closeFlow (s : Scanner) (t : Token) : Except Fault Scanner := do
  let s ← s.dropKey
  let keys := if s.inFlow then s.keys.drop 1 else s.keys
  .ok (({ s with keys := keys, keyAllowed := false }.move 1).push t)

/- The separator of a flow collection. -/
def comma (s : Scanner) : Except Fault Scanner := do
  let s ← s.dropKey
  .ok (((s.allowKey true).move 1).push .comma)

/- The indicator of a block sequence's entry. -/
def entry (s : Scanner) : Except Fault Scanner := do
  if !s.inFlow && !s.keyAllowed then .error .misplaced
  else
    let s ← (s.openBlockHere .openBlockSequence).dropKey
    .ok (((s.allowKey true).move 1).push .entry)

/- The indicator of a key. -/
def key (s : Scanner) : Except Fault Scanner := do
  if !s.inFlow && !s.keyAllowed then .error .misplaced
  else
    let s ← (s.openBlockHere .openBlockMapping).dropKey
    .ok (((s.allowKey !s.inFlow).move 1).push .key)

/-
  The indicator of a value.  The key token goes to where the
  key started, and so does the start of its mapping.
-/
def value (s : Scanner) : Except Fault Scanner :=
  match s.keys with
  | some k :: ks =>
      let s := s.insert k.number .key
      let s := s.openBlock k.column k.number .openBlockMapping
      let s := { s with keys := none :: ks, keyAllowed := false }
      .ok ((s.move 1).push .value)
  | _ =>
      if !s.inFlow && !s.keyAllowed then .error .misplaced
      else
        let s := s.openBlockHere .openBlockMapping
        .ok (((s.allowKey !s.inFlow).move 1).push .value)

/- A block scalar cannot be a key. -/
def blockScalar (s : Scanner) (literal : Bool) : Except Fault Scanner := do
  let s ← s.dropKey
  let parent? := if s.indent < 0 then none else some s.indent.toNat
  let (text, p) ← Block.read literal parent? s.position
  .ok ({ s with position := p, keyAllowed := true }.push
    (.scalar .block (String.ofList text)))

/- An unquoted scalar; if its line has ended, a key may follow. -/
def plainScalar (s : Scanner) : Except Fault Scanner := do
  let s ← s.noteKey
  let r ← Plain.read s.inFlow (s.indent + 1).toNat s.position
  .ok ({ s with position := r.next, keyAllowed := r.ended }.push
    (.scalar .plain (String.ofList r.text)))

/-
  Unquoted scalars start with no indicator that has a meaning
  here, and with no tab.
-/
def startsPlain (flow : Bool) (c : Char) (cs : List Char) : Bool :=
  if c = '-' then !(cs.head?.any isBlank)
  else if c = '?' || c = ':' then !flow && !atGap cs
  else !isBlank c && !isIndicator c

/- The token that starts with a character. -/
def token
    (s : Scanner)
    (c : Char)
    (cs : List Char) : Except Fault Scanner :=
  let p := s.position
  if p.column = 0 && c = '%' then s.directive
  else if p.atMarker '-' then s.documentMarker .documentStart
  else if p.atMarker '.' then s.documentMarker .documentEnd
  else if c = '[' then s.openFlow .openFlowSequence
  else if c = '\x7b' then s.openFlow .openFlowMapping
  else if c = ']' then s.closeFlow .closeFlowSequence
  else if c = '\x7d' then s.closeFlow .closeFlowMapping
  else if c = ',' then s.comma
  else if c = '-' && atGap cs then s.entry
  else if c = '?' && (s.inFlow || atGap cs) then s.key
  else if c = ':' && (s.inFlow || atGap cs) then s.value
  else if c = '*' then s.atom fun p => do
    let (name, q) ← anchorName p
    .ok (.alias name, q)
  else if c = '&' then s.atom fun p => do
    let (name, q) ← anchorName p
    .ok (.anchor name, q)
  else if c = '!' then s.atom fun p => do
    let (t, q) ← Tag.read s.inFlow p
    .ok (.tag t, q)
  else if c = '|' && !s.inFlow then s.blockScalar true
  else if c = '>' && !s.inFlow then s.blockScalar false
  else if c = '\'' then s.atom fun p => do
    let (text, q) ← Quote.single.read p
    .ok (.scalar .quoted (String.ofList text), q)
  else if c = '"' then s.atom fun p => do
    let (text, q) ← Quote.double.read p
    .ok (.scalar .quoted (String.ofList text), q)
  else if startsPlain s.inFlow c cs then s.plainScalar
  else .error .indicator

/- The end of the text ends all blocks. -/
def finish (s : Scanner) : Except Fault (List Token) := do
  let s ← (s.closeBlocks (-1)).dropKey
  .ok s.tokens.reverse

/- Read tokens to the end of the text. -/
def scan : Nat → Scanner → Except Fault (List Token)
  | 0, s => s.finish
  | fuel + 1, s => do
      let s := skipSpace (s.position.rest.length + 1) s
      let keys ← dropStale s.position s.keys
      let s := { s with keys := keys }
      match s.position.rest with
      | [] => s.finish
      | c :: cs =>
          let s := s.closeBlocks s.column
          let s ← s.token c cs
          scan fuel s

end Scanner

/-
  The tokens of a text.  A text with a character that may not
  appear in it is refused.
-/
def Token.ofText (text : String) : Except Fault (List Token) :=
  let cs := text.toList
  if cs.all isAllowed then
    Scanner.scan (cs.length + 1) (Scanner.start cs)
  else .error .character

end Yaml

end ManifestRecipes
