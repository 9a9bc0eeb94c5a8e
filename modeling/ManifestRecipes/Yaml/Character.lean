import ManifestRecipes.Text.Digits

/-
  The character classes of YAML.

  Key definitions include:
    * `Yaml.isAllowed`
    * `Yaml.isBreak`
    * `Yaml.isBlank`
    * `Yaml.isWord`
    * `Yaml.isPrintable`
-/

namespace ManifestRecipes

namespace Yaml

/- Characters that a text may hold. -/
def isAllowed (c : Char) : Bool :=
  let n := c.toNat
  n = 0x09 || n = 0x0A || n = 0x0D ||
    (0x20 ≤ n && n ≤ 0x7E) || n = 0x85 ||
      (0xA0 ≤ n && n ≤ 0xD7FF) ||
        (0xE000 ≤ n && n ≤ 0xFFFD) || 0x10000 ≤ n

/- The byte order mark. -/
def byteOrderMark : Char :=
  '\uFEFF'

def nextLine : Char :=
  '\u0085'

def lineSeparator : Char :=
  '\u2028'

def paragraphSeparator : Char :=
  '\u2029'

/- Characters that end a line. -/
def isBreak (c : Char) : Bool :=
  c = '\n' || c = '\r' || c = nextLine ||
    c = lineSeparator || c = paragraphSeparator

/- Space and tab. -/
def isBlank (c : Char) : Bool :=
  c = ' ' || c = '\t'

/- The text ends here or its next character ends a line. -/
def atBreak : List Char → Bool
  | [] => true
  | c :: _ => isBreak c

/- The text ends here or continues with a blank or a break. -/
def atGap : List Char → Bool
  | [] => true
  | c :: _ => isBlank c || isBreak c

/- Letters, digits, underscore and hyphen of ASCII. -/
def isWord (c : Char) : Bool :=
  c.isAlphanum || c = '_' || c = '-'

/- Characters that may appear in a tag as they are. -/
def isTagChar (c : Char) : Bool :=
  isWord c || c ∈ ";/?:@&=+$.!~*'()".toList

/- Characters that open or close collections or separate their items. -/
def isFlowIndicator (c : Char) : Bool :=
  c ∈ [',', '[', ']', '\x7b', '\x7d']

/- Characters that unquoted text cannot start with. -/
def isIndicator (c : Char) : Bool :=
  isFlowIndicator c || c ∈ "-?:#&*!|>'\"%@\u0060".toList

/- Characters that are written as they are. -/
def isPrintable (c : Char) : Bool :=
  isAllowed c && c ≠ '\t' && c ≠ '\r' &&
    c ≠ nextLine && c ≠ byteOrderMark

end Yaml

end ManifestRecipes
