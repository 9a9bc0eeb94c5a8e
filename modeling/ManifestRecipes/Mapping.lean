/-
  Ordered mappings.

  A mapping is a list of entries in the order of their first
  insertion.  The operations keep keys apart; the first entry
  of a key is the one they see.

  Key definitions include:
    * `Mapping`
    * `Mapping.position?`
    * `Mapping.get?`
    * `Mapping.insert`
    * `Mapping.appendIfAbsent`
    * `Mapping.ofList`
    * `Mapping.update?`
-/

namespace ManifestRecipes

/- Entries in order. -/
abbrev Mapping (α : Type) :=
  List (String × α)

namespace Mapping

variable {α : Type}

------------------------------------------------------------
-- Queries
------------------------------------------------------------

def keys (m : Mapping α) : List String :=
  m.map Prod.fst

/- The position of a key. -/
def position? (key : String) : Mapping α → Option Nat
  | [] => none
  | (k, _) :: m =>
      if k = key then some 0
      else (position? key m).map (· + 1)

/- The value of a key. -/
def get? (key : String) : Mapping α → Option α
  | [] => none
  | (k, v) :: m => if k = key then some v else get? key m

/- Whether a key has an entry. -/
def contains (key : String) (m : Mapping α) : Bool :=
  (position? key m).isSome

------------------------------------------------------------
-- Changes
------------------------------------------------------------

/-
  Set the value of a key.  A present key keeps its place and
  a new one goes to the end.
-/
def insert (key : String) (value : α) : Mapping α → Mapping α
  | [] => [(key, value)]
  | (k, v) :: m =>
      if k = key then (k, value) :: m
      else (k, v) :: insert key value m

/-
  Add an entry at the end unless its key is present; the
  truth value tells whether it was added.
-/
def appendIfAbsent
    (key : String)
    (value : α)
    (m : Mapping α) : Mapping α × Bool :=
  if contains key m then (m, false)
  else (m ++ [(key, value)], true)

/- Insert entries one by one into an empty mapping. -/
def ofList (entries : List (String × α)) : Mapping α :=
  entries.foldl (fun m e => insert e.1 e.2 m) []

/-
  Change the value of a key in place; fails if the key is
  absent or the change declines.
-/
def update?
    (key : String)
    (change : α → Option α) : Mapping α → Option (Mapping α)
  | [] => none
  | (k, v) :: m =>
      if k = key then
        (change v).map fun w => (k, w) :: m
      else
        (update? key change m).map ((k, v) :: ·)

end Mapping

end ManifestRecipes
