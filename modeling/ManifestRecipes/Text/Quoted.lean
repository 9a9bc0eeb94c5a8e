import ManifestRecipes.Unicode.Category
import ManifestRecipes.Unicode.Property

/-
  Quoted text in messages.

  Text is quoted so that every character of it can be seen:
  the quote and the backslash get a backslash, tab, newline,
  carriage return and NUL their letters, and characters that
  leave no mark of their own, or that join the one before,
  are written by number.

  Key definitions include:
    * `Quoted.isVisible`
    * `Quoted.text`
    * `Quoted.character`
-/

namespace ManifestRecipes

namespace Quoted

/- The categories whose members leave no mark. -/
def hiddenSets : List Unicode.RunSet :=
  [Unicode.Category.controlSet,
   Unicode.Category.formatSet,
   Unicode.Category.surrogateSet,
   Unicode.Category.privateUseSet,
   Unicode.Category.unassignedSet,
   Unicode.Category.lineSeparatorSet,
   Unicode.Category.paragraphSeparatorSet,
   Unicode.Category.spaceSeparatorSet]

/- Characters that are written as they are. -/
def isVisible (c : Char) : Bool :=
  if c.toNat < 127 then 32 ≤ c.toNat
  else
    !Unicode.Property.graphemeExtendSet.contains c.toNat &&
      !hiddenSets.any (·.contains c.toNat)

def byNumber (c : Char) : List Char :=
  '\\' :: 'u' :: '\x7b' ::
    (Nat.toDigits 16 c.toNat ++ ['\x7d'])

/- The written form of a character between given quotes. -/
def escape (quote : Char) (c : Char) : List Char :=
  if c = quote || c = '\\' then ['\\', c]
  else if c.toNat = 0 then ['\\', '0']
  else if c = '\t' then ['\\', 't']
  else if c = '\n' then ['\\', 'n']
  else if c = '\r' then ['\\', 'r']
  else if isVisible c then [c]
  else byNumber c

/- A text in double quotes. -/
def text (s : String) : String :=
  String.ofList <|
    '"' :: (s.toList.flatMap (escape '"') ++ ['"'])

/- A character in single quotes. -/
def character (c : Char) : String :=
  String.ofList ('\'' :: (escape '\'' c ++ ['\'']))

end Quoted

end ManifestRecipes
