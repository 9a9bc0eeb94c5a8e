import ManifestRecipes.Text.Digits

/-
  Units of resource quantities.

  Quantities are counted in thousandths of one, so that every
  unit is a whole number of steps.

  Key definitions include:
    * `Quantity.Unit`
    * `Quantity.Unit.ofSuffix?`
    * `Quantity.Unit.scale`
    * `Quantity.Unit.absolute?`
    * `Quantity.Unit.relative`
-/

namespace ManifestRecipes

namespace Quantity

/- The units: thousandths, one, and powers of 1000 and 1024. -/
inductive Unit where
  | milli
  | one
  | kilo
  | mega
  | giga
  | tera
  | peta
  | kibi
  | mebi
  | gibi
  | tebi
  | pebi
deriving DecidableEq, Repr

namespace Unit

def all : List Unit :=
  [.milli, .one, .kilo, .mega, .giga, .tera, .peta,
   .kibi, .mebi, .gibi, .tebi, .pebi]

/- The suffix that a unit is written with. -/
def suffix : Unit → String
  | .milli => "m"
  | .one => ""
  | .kilo => "k"
  | .mega => "M"
  | .giga => "G"
  | .tera => "T"
  | .peta => "P"
  | .kibi => "Ki"
  | .mebi => "Mi"
  | .gibi => "Gi"
  | .tebi => "Ti"
  | .pebi => "Pi"

/- The unit of a suffix; kilo may also be written with a capital. -/
def ofSuffix? (s : String) : Option Unit :=
  if s = "K" then some .kilo
  else all.find? fun u => u.suffix = s

/- The number of ones in a unit other than thousandths. -/
def factor : Unit → Nat
  | .milli => 1
  | .one => 1
  | .kilo => 1000
  | .mega => Nat.pow 1000 2
  | .giga => Nat.pow 1000 3
  | .tera => Nat.pow 1000 4
  | .peta => Nat.pow 1000 5
  | .kibi => 1024
  | .mebi => Nat.pow 1024 2
  | .gibi => Nat.pow 1024 3
  | .tebi => Nat.pow 1024 4
  | .pebi => Nat.pow 1024 5

/- The number of steps in a unit. -/
def scale (u : Unit) : Nat :=
  if u = .milli then 1 else u.factor * 1000

/- The steps in a count of a unit, if they fit into 128 bits. -/
def absolute? (u : Unit) (relative : Nat) : Option Nat :=
  some (relative * u.scale) |>.filter (Digits.inUnsigned 128)

/- The whole count of a unit in a number of steps. -/
def relative (u : Unit) (absolute : Nat) : Nat :=
  absolute / u.scale

end Unit

end Quantity

end ManifestRecipes
