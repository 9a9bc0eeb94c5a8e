import ManifestRecipes.Path

/-
  Findings: messages about the nodes of a document.

  Findings stand in the order in which they were made, and
  none is made twice.

  Key definitions include:
    * `Finding`
    * `Findings`
    * `Findings.add`
    * `Findings.addAll`
    * `Findings.messagesAt`
-/

namespace ManifestRecipes

/- A message about the node at a path. -/
structure Finding where
  path : Path
  message : String
deriving DecidableEq, Repr

def Finding.text (f : Finding) : String :=
  f.path.text ++ ": " ++ f.message

/- Different findings in the order they were made. -/
structure Findings where
  entries : List Finding
  nodup : entries.Nodup
deriving DecidableEq

namespace Findings

def empty : Findings :=
  ⟨[], List.nodup_nil⟩

/- A new finding goes to the end; the truth value tells whether it is new. -/
def add (fs : Findings) (f : Finding) : Findings × Bool :=
  if h : f ∈ fs.entries then (fs, false)
  else
    (⟨fs.entries ++ [f], by
        rw [List.nodup_append]
        refine ⟨fs.nodup, by simp, ?_⟩
        intro a ha b hb hab
        rw [List.mem_singleton] at hb
        exact h (hb ▸ hab ▸ ha)⟩, true)

/- Add a message about a node. -/
def flag (fs : Findings) (path : Path) (message : String) :
    Findings × Bool :=
  fs.add ⟨path, message⟩

/- Add findings one by one. -/
def addAll (fs : Findings) (more : List Finding) : Findings :=
  more.foldl (fun fs f => (fs.add f).1) fs

def ofList (more : List Finding) : Findings :=
  empty.addAll more

def merge (fs other : Findings) : Findings :=
  fs.addAll other.entries

/- The messages about a node. -/
def messagesAt (fs : Findings) (path : Path) : List String :=
  (fs.entries.filter (·.path = path)).map Finding.message

/- Findings as they are written, one to a line. -/
def text (fs : Findings) : String :=
  "\n".intercalate (fs.entries.map Finding.text)

end Findings

end ManifestRecipes
