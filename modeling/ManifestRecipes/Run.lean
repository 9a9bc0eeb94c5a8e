import ManifestRecipes.Manifest
import ManifestRecipes.Recipe

/-
  Applying a recipe to a manifest.

  The documents are visited one by one.  A document whose
  visit fails stays as it was.

  Key definitions include:
    * `Run`
    * `Run.ofVisit`
    * `Run.append`
    * `Recipe.run`
-/

namespace ManifestRecipes

/-
  The documents behind a recipe, with findings, faults and
  the rewritten documents by position.
-/
structure Run where
  documents : Manifest
  findings : List (Nat × Finding)
  changed : List Nat
  faults : List (Nat × Quantity.Fault)
deriving DecidableEq

namespace Run

/- No documents were visited. -/
def empty : Run :=
  ⟨[], [], [], []⟩

/- One run behind another. -/
def append (a b : Run) : Run :=
  ⟨a.documents ++ b.documents, a.findings ++ b.findings,
    a.changed ++ b.changed, a.faults ++ b.faults⟩

/- No visit failed. -/
def isOk (r : Run) : Bool :=
  r.faults.isEmpty

/- What comes of the visit of the document at a position. -/
def ofVisit (i : Nat) (t : Tree) :
    Except Quantity.Fault Visit → Run
  | .error f => ⟨[t], [], [], [(i, f)]⟩
  | .ok v =>
      ⟨[v.root?.getD t], v.findings.entries.map fun f => (i, f),
        if v.root?.isSome then [i] else [], []⟩

end Run

namespace Recipe

/- Apply a recipe to documents from a position on. -/
def runFrom (r : Recipe) : Nat → Manifest → Run
  | _, [] => Run.empty
  | i, t :: ts =>
      (Run.ofVisit i t (r.visit t)).append (r.runFrom (i + 1) ts)

/- Apply a recipe to a manifest. -/
def run (r : Recipe) (m : Manifest) : Run :=
  r.runFrom 0 m

end Recipe

end ManifestRecipes
