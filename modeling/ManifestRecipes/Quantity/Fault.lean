import ManifestRecipes.Text.Quoted

/-
  Why a text is no quantity or ratio.

  Key definitions include:
    * `Quantity.Fault`
    * `Quantity.Fault.message`
-/

namespace ManifestRecipes

namespace Quantity

/- What is wrong with a text. -/
inductive Reason where
  | amountExpected
  | fractional
  | unknownUnit (suffix : String)
  | amountRange
  | numberExpected
  | ratioRange
  | ratioNotPositive
deriving DecidableEq, Repr

/- The wording of a reason. -/
def Reason.text : Reason → String
  | .amountExpected => "expected an integer amount"
  | .fractional => "fractional amounts are not supported"
  | .unknownUnit suffix => "unknown unit " ++ Quoted.text suffix
  | .amountRange => "amount out of range"
  | .numberExpected => "expected a positive number"
  | .ratioRange => "ratio out of range"
  | .ratioNotPositive => "ratio must be positive"

/- A refused text with the reason. -/
structure Fault where
  input : String
  reason : Reason
deriving DecidableEq, Repr

/- The message of a fault. -/
def Fault.message (f : Fault) : String :=
  "malformed quantity " ++ Quoted.text f.input ++ ": " ++
    f.reason.text

end Quantity

end ManifestRecipes
