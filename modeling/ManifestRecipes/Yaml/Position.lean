import ManifestRecipes.Yaml.Character

/-
  Places in a text.

  A position holds the characters that follow it, its index
  in the text and its line and column.

  Key definitions include:
    * `Yaml.Position`
    * `Yaml.Position.move`
    * `Yaml.Position.nextLine`
    * `Yaml.Position.span`
-/

namespace ManifestRecipes

namespace Yaml

/- A place in a text together with the rest of the text. -/
structure Position where
  rest : List Char
  index : Nat
  line : Nat
  column : Nat
deriving DecidableEq, Repr

namespace Position

def start (text : List Char) : Position :=
  ⟨text, 0, 0, 0⟩

/- The place some characters further on the same line. -/
def move (p : Position) (n : Nat) : Position :=
  ⟨p.rest.drop n, p.index + n, p.line, p.column + n⟩

/- The place behind a line break; the same place if there is none. -/
def nextLine (p : Position) : Position :=
  match p.rest with
  | '\r' :: '\n' :: cs => ⟨cs, p.index + 2, p.line + 1, 0⟩
  | c :: cs =>
      if isBreak c then ⟨cs, p.index + 1, p.line + 1, 0⟩
      else p
  | [] => p

/-
  The text that a line break stands for: separators of lines
  and paragraphs stand for themselves, all others for a
  newline.
-/
def breakText (p : Position) : List Char :=
  match p.rest with
  | c :: _ =>
      if c = lineSeparator || c = paragraphSeparator then [c]
      else if isBreak c then ['\n']
      else []
  | [] => []

/- The longest run of a class, and the place behind it. -/
def span
    (p : Position)
    (accept : Char → Bool) : List Char × Position :=
  let taken := p.rest.takeWhile accept
  (taken, p.move taken.length)

/- The place behind all characters of a class. -/
def skip (p : Position) (accept : Char → Bool) : Position :=
  (p.span accept).2

/- The place at the end of the line. -/
def skipLine (p : Position) : Position :=
  p.skip fun c => !isBreak c

/- The text from here on, with the end standing for a gap. -/
def atGap (p : Position) : Bool :=
  Yaml.atGap p.rest

/- The end of the line or the text. -/
def atBreak (p : Position) : Bool :=
  Yaml.atBreak p.rest

/- A document marker at the start of a line. -/
def atMarker (p : Position) (c : Char) : Bool :=
  match p.rest with
  | a :: b :: d :: cs =>
      p.column = 0 && a = c && b = c && d = c && Yaml.atGap cs
  | _ => false

def atDocumentMarker (p : Position) : Bool :=
  p.atMarker '-' || p.atMarker '.'

end Position

end Yaml

end ManifestRecipes
