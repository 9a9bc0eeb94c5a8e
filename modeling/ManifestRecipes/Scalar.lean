import ManifestRecipes.Binary64.Reading
import ManifestRecipes.Text.Digits

/-
  Scalars: a text together with the kind of value it stands
  for.

  The kind is either given or inferred from plain text.  The
  text is kept as it was written.

  Key definitions include:
    * `ScalarKind`
    * `Scalar`
    * `Scalar.infer`
    * `Scalar.withText`
-/

namespace ManifestRecipes

/- The kinds of scalar. -/
inductive ScalarKind where
  | string
  | int
  | float
  | bool
  | null
deriving DecidableEq, Repr

/- A text with its kind. -/
structure Scalar where
  text : String
  kind : ScalarKind
deriving DecidableEq, Repr

namespace Scalar

def string (text : String) : Scalar :=
  ⟨text, .string⟩

def null : Scalar :=
  ⟨"", .null⟩

/- Plain texts that stand for null. -/
def isNullText (text : String) : Bool :=
  text ∈ ["", "~", "null", "Null", "NULL"]

/- Plain texts that stand for a truth value. -/
def isBoolText (text : String) : Bool :=
  text ∈ ["true", "True", "TRUE", "false", "False", "FALSE"]

/- Plain texts that stand for a 64-bit integer of either sign. -/
def isIntText (text : String) : Bool :=
  (Digits.readSigned64? text.toList).isSome ||
    (Digits.readUnsigned64? text.toList).isSome

/- Plain texts that stand for a floating point number. -/
def isFloatText (text : String) : Bool :=
  (Numeral.read? text.toList).isSome

/- The kind that plain text stands for. -/
def inferKind (text : String) : ScalarKind :=
  if isNullText text then .null
  else if isBoolText text then .bool
  else if isIntText text then .int
  else if isFloatText text then .float
  else .string

/- A scalar of the kind its plain text stands for. -/
def infer (text : String) : Scalar :=
  ⟨text, inferKind text⟩

def isNull (s : Scalar) : Bool :=
  s.kind = .null

/-
  The scalar with another text.  Strings stay strings; other
  kinds are inferred again.
-/
def withText (s : Scalar) (text : String) : Scalar :=
  match s.kind with
  | .string => string text
  | _ => infer text

end Scalar

end ManifestRecipes
