import ManifestRecipes.Cursor
import ManifestRecipes.Findings

/-
  What a recipe makes of one document.

  A recipe either rewrites the document or makes findings
  about it.  Rewriting some scalars of a document is a list
  of edits, and an edit that asks for the text that is
  already there changes nothing.

  Key definitions include:
    * `Visit`
    * `Edit`
    * `Tree.rewriteScalars?`
    * `Tree.nodesWhere`
    * `Findings.ofNodes`
-/

namespace ManifestRecipes

------------------------------------------------------------
-- Visits
------------------------------------------------------------

/- The rewritten document, if it was rewritten, and the findings. -/
structure Visit where
  root? : Option Tree
  findings : Findings
deriving DecidableEq

namespace Visit

/- Nothing was found or changed. -/
def unchanged : Visit :=
  ⟨none, Findings.empty⟩

/- A document may have been rewritten. -/
def rewritten (root? : Option Tree) : Visit :=
  ⟨root?, Findings.empty⟩

/- Findings were made. -/
def found (fs : Findings) : Visit :=
  ⟨none, fs⟩

end Visit

------------------------------------------------------------
-- Edits
------------------------------------------------------------

/- A text for the scalar at a path. -/
structure Edit where
  path : Path
  text : String
deriving DecidableEq, Repr

namespace Tree

/- A scalar with another text, unless it has the text already. -/
def withText? (text : String) (t : Tree) : Option Tree :=
  match t with
  | .scalar s =>
      if s.text = text then none else some (.scalar (s.withText text))
  | _ => none

/- Apply one edit; fails if it changes nothing. -/
def rewriteScalar? (t : Tree) (e : Edit) : Option Tree :=
  t.replaceAt? e.path (withText? e.text)

/- Apply edits one after the other; fails if none changes anything. -/
def rewriteScalars? (t : Tree) (es : List Edit) : Option Tree :=
  es.foldl
    (fun done? e => ((done?.getD t).rewriteScalar? e) <|> done?)
    none

------------------------------------------------------------
-- Nodes
------------------------------------------------------------

/- The nodes of a document that pass a test, in order. -/
def nodesWhere (t : Tree) (test : Cursor → Bool) : List Cursor :=
  (Cursor.atRoot t).descendants.filter test

end Tree

/- The findings of the nodes for which there is a message. -/
def Findings.ofNodes
    (cs : List Cursor)
    (message? : Cursor → Option String) : Findings :=
  Findings.ofList <|
    cs.filterMap fun c => (message? c).map (Finding.mk c.path)

/- A finding about the document itself. -/
def Findings.ofRoot (messages : List String) : Findings :=
  Findings.ofList (messages.map (Finding.mk []))

end ManifestRecipes
