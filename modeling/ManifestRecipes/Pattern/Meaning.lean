import ManifestRecipes.Pattern
import ManifestRecipes.Pattern.Form
import ManifestRecipes.Unicode.Query

/-
  What written patterns stand for.

  Switches that are set within a group hold for the rest of
  the group.  Classes that are not switched to Unicode are
  ASCII classes, and what reaches beyond ASCII is refused.

  Key definitions include:
    * `Pattern.Mode`
    * `Pattern.Member.set?`
    * `Pattern.Form.meaning`
-/

namespace ManifestRecipes

namespace Pattern

open Unicode (CodeSet)

------------------------------------------------------------
-- Switches
------------------------------------------------------------

/- The positions of the switches that matter to what matches. -/
structure Mode where
  ignoreCase : Bool
  lines : Bool
  dotAll : Bool
  unicode : Bool
  returns : Bool
deriving DecidableEq, Repr

namespace Mode

/- The positions at the beginning of a pattern. -/
def initial : Mode :=
  ⟨false, false, false, true, false⟩

/- Set one switch. -/
def set (m : Mode) : Setting → Mode
  | (.ignoreCase, on) => { m with ignoreCase := on }
  | (.lines, on) => { m with lines := on }
  | (.dotAll, on) => { m with dotAll := on }
  | (.unicode, on) => { m with unicode := on }
  | (.returns, on) => { m with returns := on }
  | (.lazy, _) => m
  | (.spaced, _) => m

def setAll (m : Mode) (settings : List Setting) : Mode :=
  settings.foldl set m

------------------------------------------------------------
-- Sets
------------------------------------------------------------

/- Which letters have case variants. -/
def caseRule (m : Mode) : Unicode.CaseRule :=
  if m.unicode then .simple else .ascii

/- A set, with the case variants of its members if case is ignored. -/
def fold (m : Mode) (s : CodeSet) : CodeSet :=
  if m.ignoreCase then .variants m.caseRule s else s

/-
  A set or its complement.  Without Unicode the complement
  of a set, which is an ASCII set then, reaches too far.
-/
def negate? (m : Mode) (negated : Bool) (s : CodeSet) :
    Option CodeSet :=
  if !negated then some s
  else if m.unicode then some (.complement s)
  else none

/- A set, folded and then negated. -/
def finish? (m : Mode) (negated : Bool) (s : CodeSet) :
    Option CodeSet :=
  m.negate? negated (m.fold s)

end Mode

/- The extent of a shorthand. -/
def Shorthand.set (unicode : Bool) : Shorthand → CodeSet
  | .digit =>
      if unicode then Unicode.Word.digits
      else Unicode.Word.asciiDigits
  | .blank =>
      if unicode then Unicode.Word.blanks
      else Unicode.Word.asciiBlanks
  | .word =>
      if unicode then Unicode.Word.characters
      else Unicode.Word.asciiCharacters

/- The characters of a named class. -/
def AsciiClass.set : AsciiClass → CodeSet
  | .alnum => .unions [.range 48 57, .range 65 90, .range 97 122]
  | .alpha => .unions [.range 65 90, .range 97 122]
  | .ascii => .range 0 127
  | .blank => .unions [.single 9, .single 32]
  | .cntrl => .unions [.range 0 31, .single 127]
  | .digit => .range 48 57
  | .graph => .range 33 126
  | .lower => .range 97 122
  | .print => .range 32 126
  | .punct =>
      .unions [.range 33 47, .range 58 64, .range 91 96,
        .range 123 126]
  | .space => Unicode.Word.asciiBlanks
  | .upper => .range 65 90
  | .word => Unicode.Word.asciiCharacters
  | .xdigit => .unions [.range 48 57, .range 65 70, .range 97 102]

/- The set of a class escape. -/
def ClassEscape.set? (m : Mode) : ClassEscape → Option CodeSet
  | .shorthand kind negated =>
      m.negate? negated (kind.set m.unicode)
  | .query q negated =>
      if m.unicode then q.set?.bind (m.finish? negated) else none

/- The code point of a letter; beyond ASCII it may not be written as a byte. -/
def Letter.code? (m : Mode) (l : Letter) : Option Nat :=
  if l.isByte && !m.unicode && 128 ≤ l.char.toNat then none
  else some l.char.toNat

/- The code point of a member of a class. -/
def Letter.member? (m : Mode) (l : Letter) : Option Nat :=
  if m.unicode || l.char.toNat < 128 then some l.char.toNat else none

/- The outcome of an operation on sets. -/
def ClassOperator.apply (a b : CodeSet) : ClassOperator → CodeSet
  | .intersection => .intersection a b
  | .difference => .difference a b
  | .symmetricDifference => .symmetricDifference a b

mutual

/- The set of a member of a class. -/
def Member.set? (mode : Mode) : Member → Option CodeSet
  | .letter l => (l.member? mode).map .single
  | .range a b => do
      let first ← a.member? mode
      let last ← b.member? mode
      some (.range first last)
  | .ascii kind negated => mode.finish? negated kind.set
  | .escape e => e.set? mode
  | .bracket negated m => do
      let s ← m.set? mode
      mode.finish? negated s
  | .union ms => Member.union? mode ms
  | .operation op l r => do
      let a ← l.set? mode
      let b ← r.set? mode
      some (op.apply (mode.fold a) (mode.fold b))

/- The set of some members of a class. -/
def Member.union? (mode : Mode) : List Member → Option CodeSet
  | [] => some .empty
  | m :: ms => do
      let s ← m.set? mode
      let t ← Member.union? mode ms
      some (.union s t)

end

------------------------------------------------------------
-- Forms
------------------------------------------------------------

/- The set of a letter with its variants, if case is ignored. -/
def Mode.letterSet (m : Mode) (c : Nat) : CodeSet :=
  if m.ignoreCase then
    .unions ((m.caseRule.variants c).map .single)
  else .single c

/- The characters that a dot stands for. -/
def Mode.dotSet (m : Mode) : CodeSet :=
  if m.dotAll then .everything
  else if m.returns then
    .complement (.unions [.single 10, .single 13])
  else .complement (.single 10)

/- The condition on words that an anchor asks for. -/
def Mode.wordAssertion (m : Mode) (place : WordPlace) : Assertion :=
  .word (Shorthand.word.set m.unicode) place

/- The assertion of an anchor. -/
def Anchor.assertion (m : Mode) : Anchor → Assertion
  | .lineStart => if m.lines then .lineStart m.returns else .textStart
  | .lineEnd => if m.lines then .lineEnd m.returns else .textEnd
  | .textStart => .textStart
  | .textEnd => .textEnd
  | .edge => m.wordAssertion .edge
  | .inner => m.wordAssertion .inner
  | .start => m.wordAssertion .start
  | .finish => m.wordAssertion .finish
  | .openLeft => m.wordAssertion .openLeft
  | .openRight => m.wordAssertion .openRight

mutual

/- The pattern of a form, and the mode behind it. -/
def Form.meaning (mode : Mode) : Form → Option (Pattern × Mode)
  | .letter l => do
      let c ← l.code? mode
      some (.oneOf (mode.letterSet c), mode)
  | .dot =>
      if mode.unicode then some (.oneOf mode.dotSet, mode) else none
  | .anchor a => some (.assertion (a.assertion mode), mode)
  | .escape e => do
      let s ← e.set? mode
      some (.oneOf s, mode)
  | .bracket negated m => do
      let s ← m.set? mode
      let s ← mode.finish? negated s
      some (.oneOf s, mode)
  | .repetition f least most? => do
      let (p, mode) ← f.meaning mode
      some (.repeated p least most?, mode)
  | .group ss f => do
      let (p, _) ← f.meaning (mode.setAll ss)
      some (p, mode)
  | .settings ss => some (.empty, mode.setAll ss)
  | .sequence fs => Form.sequenceMeaning mode fs
  | .choice fs => Form.choiceMeaning mode fs

/- The pattern of forms one after another. -/
def Form.sequenceMeaning (mode : Mode) :
    List Form → Option (Pattern × Mode)
  | [] => some (.empty, mode)
  | f :: fs => do
      let (p, mode) ← f.meaning mode
      let (q, mode) ← Form.sequenceMeaning mode fs
      some (.sequence p q, mode)

/- The pattern of alternatives; an empty list of them matches nothing. -/
def Form.choiceMeaning (mode : Mode) :
    List Form → Option (Pattern × Mode)
  | [] => some (.oneOf .empty, mode)
  | f :: fs => do
      let (p, mode) ← f.meaning mode
      let (q, mode) ← Form.choiceMeaning mode fs
      some (.choice p q, mode)

end

end Pattern

end ManifestRecipes
