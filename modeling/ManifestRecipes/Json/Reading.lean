import ManifestRecipes.Json.Number
import ManifestRecipes.Mapping

/-
  Reading JSON.

  A text holds one value; arrays and objects are nested at
  most 127 deep.  A repeated member replaces the first one in
  its place.

  Key definitions include:
    * `Json.string?`
    * `Json.value?`
    * `Json.read?`
-/

namespace ManifestRecipes

namespace Json

/- The characters between tokens. -/
def isSpace (c : Char) : Bool :=
  c = ' ' || c = '\n' || c = '\t' || c = '\r'

/- The text behind the space. -/
def trimStart (cs : List Char) : List Char :=
  cs.dropWhile isSpace

------------------------------------------------------------
-- Strings
------------------------------------------------------------

/- Read four hexadecimal digits. -/
def unit? : List Char → Option (Nat × List Char)
  | a :: b :: c :: d :: cs => do
      let n ← Digits.readNat? 16 [a, b, c, d]
      some (n, cs)
  | _ => none

/- The first half of a character outside the basic plane. -/
def isHighHalf (n : Nat) : Bool :=
  0xD800 ≤ n && n ≤ 0xDBFF

/- The second half of a character outside the basic plane. -/
def isLowHalf (n : Nat) : Bool :=
  0xDC00 ≤ n && n ≤ 0xDFFF

/- Read a character by its number or by the numbers of its halves. -/
def numbered? (cs : List Char) : Option (Char × List Char) := do
  let (n, cs) ← unit? cs
  if isLowHalf n then none
  else if isHighHalf n then
    match cs with
    | '\\' :: 'u' :: cs => do
        let (m, cs) ← unit? cs
        if isLowHalf m then
          some (Char.ofNat
            (0x10000 + (n - 0xD800) * 0x400 + (m - 0xDC00)), cs)
        else none
    | _ => none
  else some (Char.ofNat n, cs)

/- Read an escape behind its backslash. -/
def escaped? : List Char → Option (Char × List Char)
  | '"' :: cs => some ('"', cs)
  | '\\' :: cs => some ('\\', cs)
  | '/' :: cs => some ('/', cs)
  | 'b' :: cs => some ('\x08', cs)
  | 'f' :: cs => some ('\x0c', cs)
  | 'n' :: cs => some ('\n', cs)
  | 'r' :: cs => some ('\r', cs)
  | 't' :: cs => some ('\t', cs)
  | 'u' :: cs => numbered? cs
  | _ => none

/- Read a string behind its opening quote; `fuel` bounds the characters. -/
def string? :
    Nat → List Char → List Char → Option (String × List Char)
  | 0, _, _ => none
  | fuel + 1, text, cs =>
      match cs with
      | [] => none
      | '"' :: rest => some (String.ofList text.reverse, rest)
      | '\\' :: rest => do
          let (c, rest) ← escaped? rest
          string? fuel (c :: text) rest
      | c :: rest =>
          if c.toNat < 0x20 then none
          else string? fuel (c :: text) rest

def quoted? : List Char → Option (String × List Char)
  | '"' :: cs => string? (cs.length + 1) [] cs
  | _ => none

------------------------------------------------------------
-- Values
------------------------------------------------------------

/- Read a given word. -/
def word? (w : List Char) (j : Json) (cs : List Char) :
    Option (Json × List Char) :=
  if w.isPrefixOf cs then some (j, cs.drop w.length) else none

/- Read the comma before another item, or the end of them. -/
def more? (closing : Char) : List Char → Option (Bool × List Char)
  | c :: cs =>
      if c = ',' then some (true, trimStart cs)
      else if c = closing then some (false, cs)
      else none
  | [] => none

mutual

/-
  Read a value whose arrays and objects are nested at most
  `depth` deep.  The first argument bounds the steps.
-/
def value? : Nat → Nat → List Char → Option (Json × List Char)
  | 0, _, _ => none
  | fuel + 1, depth, cs =>
      match cs, depth with
      | 'n' :: _, _ => word? "null".toList .null cs
      | 't' :: _, _ => word? "true".toList (.bool true) cs
      | 'f' :: _, _ => word? "false".toList (.bool false) cs
      | '"' :: _, _ => do
          let (s, rest) ← quoted? cs
          some (.string s, rest)
      | '[' :: _, 0 => none
      | '\x7b' :: _, 0 => none
      | '[' :: rest, depth + 1 =>
          match trimStart rest with
          | ']' :: rest => some (.array [], rest)
          | rest => do
              let (xs, rest) ← items? fuel depth rest
              some (.array xs, rest)
      | '\x7b' :: rest, depth + 1 =>
          match trimStart rest with
          | '\x7d' :: rest => some (.object [], rest)
          | rest => do
              let (ms, rest) ← members? fuel depth rest
              some (.object (Mapping.ofList ms), rest)
      | _, _ => number? cs

/- Read the items of an array. -/
def items? :
    Nat → Nat → List Char → Option (List Json × List Char)
  | 0, _, _ => none
  | fuel + 1, depth, cs => do
      let (x, rest) ← value? fuel depth cs
      let (more, rest) ← more? ']' (trimStart rest)
      if more then
        let (xs, rest) ← items? fuel depth rest
        some (x :: xs, rest)
      else some ([x], rest)

/- Read the members of an object. -/
def members? :
    Nat → Nat → List Char →
      Option (List (String × Json) × List Char)
  | 0, _, _ => none
  | fuel + 1, depth, cs => do
      let (k, rest) ← quoted? cs
      match trimStart rest with
      | ':' :: rest => do
          let (v, rest) ← value? fuel depth (trimStart rest)
          let (more, rest) ← more? '\x7d' (trimStart rest)
          if more then
            let (ms, rest) ← members? fuel depth rest
            some ((k, v) :: ms, rest)
          else some ([(k, v)], rest)
      | _ => none

end

/- How deep arrays and objects may be nested. -/
def depthLimit : Nat :=
  127

/- Read a text that holds one value. -/
def read? (text : String) : Option Json := do
  let cs := text.toList
  let (j, rest) ←
    value? (2 * cs.length + 2) depthLimit (trimStart cs)
  if (trimStart rest).isEmpty then some j else none

end Json

end ManifestRecipes
