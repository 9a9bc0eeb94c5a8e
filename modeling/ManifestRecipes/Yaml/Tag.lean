import ManifestRecipes.Yaml.Fault
import ManifestRecipes.Yaml.Position

/-
  Tags and the directives that name their handles.

  A tag is written as a whole between angle brackets, or as a
  handle followed by a suffix.  Directives give handles their
  meaning; two handles have one from the beginning.

  Key definitions include:
    * `Yaml.Tag`
    * `Yaml.Tag.read`
    * `Yaml.Tag.resolve`
    * `Yaml.Directive`
    * `Yaml.Directive.read`
-/

namespace ManifestRecipes

namespace Yaml

------------------------------------------------------------
-- Tag Text
------------------------------------------------------------

/- A tag as it is written; a tag in brackets has no handle. -/
structure Tag where
  handle : String
  suffix : String
deriving DecidableEq, Repr

namespace Tag

/- The bytes of one escaped character. -/
def octets (n : Nat) : List Char → Option (List UInt8 × List Char)
  | '%' :: a :: b :: cs =>
      match n, Digits.readNat? 16 [a, b] with
      | 0, _ => none
      | _, none => none
      | 1, some v => some ([v.toUInt8], cs)
      | n + 2, some v => do
          let (vs, cs) ← octets (n + 1) cs
          some (v.toUInt8 :: vs, cs)
  | _ => none

/- The number of bytes of a character by its first byte. -/
def octetCount (first : Nat) : Nat :=
  if first < 0x80 then 1
  else if first < 0xC0 then 0
  else if first < 0xE0 then 2
  else if first < 0xF0 then 3
  else if first < 0xF8 then 4
  else 0

/- Read one character that is written by its bytes. -/
def escaped? (cs : List Char) : Option (Char × Nat) :=
  match cs with
  | '%' :: a :: b :: _ => do
      let first ← Digits.readNat? 16 [a, b]
      let n := octetCount first
      let (bytes, _) ← octets n cs
      let s ← String.fromUTF8? bytes.toByteArray
      match s.toList with
      | [c] => some (c, 3 * n)
      | _ => none
  | _ => none

/-
  Read the characters of a tag.  In brackets, commas and
  square brackets belong to it.
-/
def chars
    (bracketed : Bool) :
    Nat → List Char → Position →
      Except Fault (List Char × Position)
  | 0, text, p => .ok (text, p)
  | fuel + 1, text, p =>
      match p.rest with
      | [] => .ok (text, p)
      | c :: _ =>
          if c = '%' then
            match escaped? p.rest with
            | some (d, n) =>
                chars bracketed fuel (text ++ [d]) (p.move n)
            | none => .error .tag
          else if isTagChar c ||
              (bracketed && (c = ',' || c = '[' || c = ']')) then
            chars bracketed fuel (text ++ [c]) (p.move 1)
          else .ok (text, p)

/- Read a nonempty run of tag characters. -/
def someChars
    (bracketed : Bool)
    (p : Position) : Except Fault (List Char × Position) := do
  let (text, q) ← chars bracketed p.rest.length [] p
  if text.isEmpty then .error .tag else .ok (text, q)

/-
  Read a handle: an exclamation mark, word characters and
  possibly another mark.
-/
def handleText (p : Position) : Except Fault (List Char × Position) :=
  match p.rest with
  | '!' :: _ =>
      let (name, q) := (p.move 1).span isWord
      if q.rest.head? = some '!' then
        .ok ('!' :: (name ++ ['!']), q.move 1)
      else .ok ('!' :: name, q)
  | _ => .error .tag

/- A handle between two marks. -/
def isNamedHandle (cs : List Char) : Bool :=
  2 ≤ cs.length && cs.getLast? = some '!'

/- Read a tag in angle brackets, from its exclamation mark on. -/
def readBracketed (p : Position) : Except Fault (Tag × Position) := do
  let (text, q) ← someChars true (p.move 2)
  if q.rest.head? = some '>' then
    .ok (⟨"", String.ofList text⟩, q.move 1)
  else .error .tag

/- Read a tag with a handle. -/
def readHandled (p : Position) : Except Fault (Tag × Position) := do
  let (h, q) ← handleText p
  if isNamedHandle h then
    let (text, q) ← someChars false q
    .ok (⟨String.ofList h, String.ofList text⟩, q)
  else
    let (text, q) ← chars false q.rest.length [] q
    let suffix := h.drop 1 ++ text
    if suffix.isEmpty then .ok (⟨"", "!"⟩, q)
    else .ok (⟨"!", String.ofList suffix⟩, q)

/- Read a tag; a gap or, in flow collections, a comma follows it. -/
def read
    (flow : Bool)
    (p : Position) : Except Fault (Tag × Position) := do
  let (tag, q) ←
    if (p.move 1).rest.head? = some '<' then readBracketed p
    else readHandled p
  if q.atGap || (flow && q.rest.head? = some ',') then .ok (tag, q)
  else .error .tag

/- The full tag under the meanings of the handles. -/
def resolve
    (handles : List (String × String))
    (t : Tag) : Except Fault String :=
  if t.handle.isEmpty then .ok t.suffix
  else
    match handles.find? fun h => h.1 = t.handle with
    | some h => .ok (h.2 ++ t.suffix)
    | none => .error .unknownHandle

/- The namespace of the tags of the core schema. -/
def coreNamespace : String :=
  "tag:yaml.org,2002:"

/- The handles that have a meaning from the beginning. -/
def defaultHandles : List (String × String) :=
  [("!", "!"), ("!!", coreNamespace)]

end Tag

------------------------------------------------------------
-- Directives
------------------------------------------------------------

/- Instructions ahead of a document. -/
inductive Directive where
  | version (major minor : Nat)
  | handle (name meaning : String)
deriving DecidableEq, Repr

namespace Directive

/- Read a number of at most nine digits. -/
def number (p : Position) : Except Fault (Nat × Position) :=
  let (digits, q) := p.span Digits.isDigit
  if digits.isEmpty || 9 < digits.length then .error .directive
  else .ok (Digits.value digits, q)

/- Read the two numbers of a version. -/
def readVersion (p : Position) : Except Fault (Directive × Position) := do
  let (major, q) ← number (p.skip isBlank)
  if q.rest.head? = some '.' then
    let (minor, q) ← number (q.move 1)
    .ok (.version major minor, q)
  else .error .directive

/- Read a handle and its meaning. -/
def readHandle (p : Position) : Except Fault (Directive × Position) := do
  let (h, q) ← Tag.handleText (p.skip isBlank)
  if h ≠ ['!'] && !Tag.isNamedHandle h then .error .directive
  else if !(q.rest.head?.any isBlank) then .error .directive
  else
    let (meaning, q) ← Tag.someChars true (q.skip isBlank)
    if q.atGap then
      .ok (.handle (String.ofList h) (String.ofList meaning), q)
    else .error .directive

/- Read a directive and the line it stands on, from its percent sign on. -/
def read (p : Position) : Except Fault (Directive × Position) := do
  let (name, q) := (p.move 1).span isWord
  if !q.atGap then .error .directive
  else
    let (d, q) ←
      if name = "YAML".toList then readVersion q
      else if name = "TAG".toList then readHandle q
      else .error .directive
    let q := q.skip isBlank
    let q := if q.rest.head? = some '#' then q.skipLine else q
    if q.atBreak then .ok (d, q.nextLine) else .error .directive

end Directive

end Yaml

end ManifestRecipes
