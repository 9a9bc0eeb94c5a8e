import ManifestRecipes.Yaml.Text.Gap

/-
  Scalars in single and double quotes.

  In single quotes only the quote itself is written twice;
  in double quotes a backslash starts an escape or takes away
  the end of a line.

  Key definitions include:
    * `Yaml.Quote`
    * `Yaml.Quote.escape`
    * `Yaml.Quote.read`
-/

namespace ManifestRecipes

namespace Yaml

/- The two kinds of quotes. -/
inductive Quote where
  | single
  | double
deriving DecidableEq, Repr

namespace Quote

def char : Quote → Char
  | .single => '\''
  | .double => '"'

/- The character that a one-letter escape stands for. -/
def letter? : Char → Option Char
  | '0' => some '\x00'
  | 'a' => some '\x07'
  | 'b' => some '\x08'
  | 't' => some '\t'
  | '\t' => some '\t'
  | 'n' => some '\n'
  | 'v' => some '\x0b'
  | 'f' => some '\x0c'
  | 'r' => some '\r'
  | 'e' => some '\x1b'
  | ' ' => some ' '
  | '"' => some '"'
  | '/' => some '/'
  | '\\' => some '\\'
  | 'N' => some nextLine
  | '_' => some '\u00A0'
  | 'L' => some lineSeparator
  | 'P' => some paragraphSeparator
  | _ => none

/- How many digits the number of an escape has. -/
def digits? : Char → Option Nat
  | 'x' => some 2
  | 'u' => some 4
  | 'U' => some 8
  | _ => none

/- The character of a code point that is a scalar value. -/
def scalarValue? (n : Nat) : Option Char :=
  if n.isValidChar then some (Char.ofNat n) else none

/-
  The character of an escape and the number of characters
  behind the backslash that spell it.
-/
def escape : List Char → Except Fault (Char × Nat)
  | [] => .error .escape
  | c :: cs =>
      match letter? c, digits? c with
      | some d, _ => .ok (d, 1)
      | none, some n =>
          let number := cs.take n
          let value? := (Digits.readNat? 16 number).bind scalarValue?
          match value? with
          | some d =>
              if number.length = n then .ok (d, n + 1)
              else .error .escape
          | none => .error .escape
      | none, none => .error .escape

/- A word, and whether a backslash took away the line end behind it. -/
structure Word where
  text : List Char
  joined : Bool
  next : Position

/- Read to the next gap or the closing quote. -/
def word
    (q : Quote) :
    Nat → List Char → Position → Except Fault Word
  | 0, text, p => .ok ⟨text, false, p⟩
  | fuel + 1, text, p =>
      match p.rest with
      | [] => .ok ⟨text, false, p⟩
      | c :: cs =>
          if isBlank c || isBreak c then .ok ⟨text, false, p⟩
          else if c = q.char then
            if q = .single && cs.head? = some '\'' then
              word q fuel (text ++ [c]) (p.move 2)
            else .ok ⟨text, false, p⟩
          else if q = .double && c = '\\' then
            if !cs.isEmpty && atBreak cs then
              .ok ⟨text, true, (p.move 1).nextLine⟩
            else do
              let (d, n) ← escape cs
              word q fuel (text ++ [d]) (p.move (n + 1))
          else word q fuel (text ++ [c]) (p.move 1)

/- Read the words and gaps up to the closing quote. -/
def readFrom
    (q : Quote) :
    Nat → List Char → Position →
      Except Fault (List Char × Position)
  | 0, _, _ => .error .openQuote
  | fuel + 1, text, p =>
      if p.atDocumentMarker then .error .documentIndicator
      else if p.rest.isEmpty then .error .openQuote
      else do
        let w ← word q p.rest.length [] p
        let text := text ++ w.text
        if w.next.rest.head? = some q.char then
          .ok (text, w.next.move 1)
        else do
          let start := if w.joined then Gap.joined else Gap.empty
          let (gap, next) ← start.read 0 w.next
          readFrom q fuel (text ++ gap.text) next

/- Read a scalar from its opening quote on. -/
def read
    (q : Quote)
    (p : Position) : Except Fault (List Char × Position) :=
  readFrom q (p.rest.length + 1) [] (p.move 1)

end Quote

end Yaml

end ManifestRecipes
