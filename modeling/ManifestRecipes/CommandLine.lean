import ManifestRecipes.CommandLine.Arguments
import ManifestRecipes.Expression.Selection
import ManifestRecipes.Recipe.Options.Reading
import ManifestRecipes.Resource
import ManifestRecipes.Run

/-
  The command line.

  A command acts step by step on what it has done so far: it
  reads files, opens the one for its output, which empties it,
  writes to it, prints and reports.  A fault ends the command
  and undoes nothing.

  Key definitions include:
    * `Files`
    * `CommandFault`
    * `Effects`
    * `Action`
    * `Outcome`
    * `Command.outcome`
    * `CommandLine.outcome`
-/

namespace ManifestRecipes

------------------------------------------------------------
-- Files
------------------------------------------------------------

/- Why a file cannot be read or written. -/
inductive FileFault where
  | missing
  | directory
  | other (text : String)
deriving DecidableEq, Repr

def FileFault.message : FileFault → String
  | .missing => "No such file or directory (os error 2)"
  | .directory => "Is a directory (os error 21)"
  | .other text => text

/- The files that a command finds. -/
structure Files where
  /- The text at a path. -/
  read : String → Except FileFault String
  /- Why the file at a path cannot be opened for writing. -/
  refusal? : String → Option FileFault
  /- The name of the file at a path; several paths may lead to one. -/
  name : String → String

namespace Files

/- A path without the steps that stay where they are. -/
def withoutDots : List Char → List Char
  | '.' :: '/' :: cs => withoutDots cs
  | cs => cs

/- The name of a file in the only directory there is. -/
def place (path : String) : Except FileFault String :=
  let cs := withoutDots path.toList
  if path = "" || cs.contains '/' then .error .missing
  else if cs = [] || cs = ['.'] then .error .directory
  else .ok (String.ofList cs)

/- The text of a file in a directory. -/
def readIn (entries : List (String × String)) (path : String) :
    Except FileFault String := do
  let name ← place path
  match entries.lookup name with
  | some text => .ok text
  | none => .error .missing

/- Why a path cannot be written in a directory. -/
def refusalIn? (path : String) : Option FileFault :=
  match place path with
  | .ok _ => none
  | .error f => some f

/- Paths to one file of a directory differ in steps that stay. -/
def nameIn (path : String) : String :=
  String.ofList (withoutDots path.toList)

def ofList (entries : List (String × String)) : Files :=
  ⟨readIn entries, refusalIn?, nameIn⟩

/- The files when some of them have been written. -/
def after (files : Files) (written : Mapping String) : Files :=
  { files with
    read := fun path =>
      match written.get? (files.name path) with
      | some text => .ok text
      | none => files.read path }

end Files

------------------------------------------------------------
-- Faults
------------------------------------------------------------

/- Why a command fails. -/
inductive CommandFault where
  | recipeFile (path : String) (f : FileFault)
  | recipe (path : String) (f : Recipe.Fault)
  | manifestFile (path : String) (f : FileFault)
  | manifest (path : String) (f : Yaml.Fault)
  | outputFile (path : String) (f : FileFault)
  | expression (f : Expression.Fault)
  | documents (recipe : String) (count : Nat)

/- The message of a fault. -/
def CommandFault.message : CommandFault → String
  | .recipeFile path f =>
      "Failed to read recipe " ++ path ++ ": " ++ f.message
  | .recipe path f => "Invalid recipe " ++ path ++ ": " ++ f.message
  | .manifestFile path f =>
      "Failed to read manifest " ++ path ++ ": " ++ f.message
  | .manifest path _ => "Failed to parse manifest " ++ path
  | .outputFile path f =>
      "Failed to create output file " ++ path ++ ": " ++ f.message
  | .expression f => f.message
  | .documents name count =>
      "Recipe " ++ name ++ " failed on " ++ Digits.text count ++
        " document(s); they were written unchanged"

def CommandFault.line (f : CommandFault) : String :=
  "Error: " ++ f.message ++ "\n"

------------------------------------------------------------
-- Actions
------------------------------------------------------------

/-
  What a command has done so far: what it has printed, what it
  has reported, and the files that it has opened for writing,
  by name, with what has been written to them since.

  The report is that of the command itself.  A log, which may go
  to the same place, is no part of it.
-/
structure Effects where
  output : String
  errors : String
  written : Mapping String
deriving DecidableEq, Repr

/- Nothing is done yet. -/
def Effects.none : Effects :=
  ⟨"", "", []⟩

/- Steps of a command; a fault ends them and undoes nothing. -/
abbrev Action (α : Type) :=
  ExceptT CommandFault (StateM Effects) α

namespace Action

/- Act on what has been done so far. -/
def runFrom {α : Type} (a : Action α) (done : Effects) :
    Except CommandFault α × Effects :=
  a.run.run done

/- Go on with a result; a fault that it has instead ends the command. -/
def ofExcept
    {ε α : Type}
    (fault : ε → CommandFault)
    (result : Except ε α) : Action α :=
  ExceptT.mk (pure (result.mapError fault))

/- Read a file as it is by now. -/
def read
    (files : Files)
    (fault : FileFault → CommandFault)
    (path : String) : Action String := do
  let done ← get
  ofExcept fault ((files.after done.written).read path)

/- Open a file for writing, which empties it. -/
def create (files : Files) (path : String) : Action Unit :=
  match files.refusal? path with
  | some f => throw (.outputFile path f)
  | none =>
      modify fun done =>
        { done with
          written := done.written.insert (files.name path) "" }

/- Write behind what a file has been given since it was opened. -/
def append (name text : String) : Action Unit :=
  modify fun done =>
    let before := (done.written.get? name).getD ""
    { done with written := done.written.insert name (before ++ text) }

def print (text : String) : Action Unit :=
  modify fun done => { done with output := done.output ++ text }

def report (text : String) : Action Unit :=
  modify fun done => { done with errors := done.errors ++ text }

end Action

------------------------------------------------------------
-- Outcomes
------------------------------------------------------------

/- What a command has done in the end, and its exit code. -/
structure Outcome extends Effects where
  code : Nat
deriving DecidableEq, Repr

namespace Outcome

/- A fault is reported behind everything else. -/
def ofAction (a : Action Unit) : Outcome :=
  match a.runFrom .none with
  | (.ok (), done) => ⟨done, 0⟩
  | (.error f, done) =>
      ⟨{ done with errors := done.errors ++ f.line }, 1⟩

/- The arguments make no command. -/
def misused : Outcome :=
  ⟨.none, 2⟩

/- The file that was written last, with its text. -/
def written? (o : Outcome) : Option (String × String) :=
  o.written.getLast?

/- The files as they are in the end. -/
def leaves (files : Files) (o : Outcome) : Files :=
  files.after o.written

end Outcome

namespace Command

------------------------------------------------------------
-- Reading
------------------------------------------------------------

def readRecipe (files : Files) (path : String) : Action Recipe := do
  let text ← Action.read files (.recipeFile path) path
  Action.ofExcept (.recipe path) (Recipe.read text)

def readManifest (files : Files) (path : String) :
    Action Manifest := do
  let text ← Action.read files (.manifestFile path) path
  Action.ofExcept (.manifest path) (Manifest.read text)

------------------------------------------------------------
-- Writing
------------------------------------------------------------

/- Where the output of a command goes. -/
inductive Target where
  | terminal
  | file (name : String)

namespace Target

/- Open an output; a hyphen stands for printing. -/
def ofOutput (files : Files) (output : String) : Action Target :=
  if output = "-" then return .terminal
  else do
    Action.create files output
    return .file (files.name output)

def write (text : String) : Target → Action Unit
  | .terminal => Action.print text
  | .file name => Action.append name text

end Target

------------------------------------------------------------
-- Runs
------------------------------------------------------------

/- The number of a document in brackets. -/
def numbered (i : Nat) : String :=
  "[" ++ Digits.text i ++ "] "

/- The lines that report a run: the findings, then the faults. -/
def reportLines (r : Run) : List String :=
  r.findings.map (fun (i, f) => numbered i ++ f.text ++ "\n") ++
    r.faults.map fun (i, f) =>
      numbered i ++ "error: " ++ f.message ++ "\n"

/- The fault of a run that failed on some documents. -/
def runFault? (recipe : Recipe) (r : Run) : Option CommandFault :=
  if r.isOk then none
  else some (.documents recipe.name r.faults.length)

/- Run a recipe, write the documents, and then report. -/
def applyRecipe
    (files : Files)
    (output : String)
    (recipe : Recipe)
    (manifest : Manifest) : Action Unit := do
  let r := recipe.run manifest
  let target ← Target.ofOutput files output
  target.write (Manifest.text r.documents)
  Action.report (String.join (reportLines r))
  match runFault? recipe r with
  | some f => throw f
  | none => return ()

/- Apply a recipe in a file to a manifest in another. -/
def runRecipe
    (files : Files)
    (recipePath output manifestPath : String) : Action Unit := do
  let recipe ← readRecipe files recipePath
  let manifest ← readManifest files manifestPath
  applyRecipe files output recipe manifest

------------------------------------------------------------
-- Queries
------------------------------------------------------------

/- The lines of a text, each of which ends in a line feed. -/
def lines : List Char → List (List Char)
  | [] => []
  | '\n' :: cs => [] :: lines cs
  | c :: cs =>
      match lines cs with
      | [] => [[c]]
      | line :: more => (c :: line) :: more

def indented (text : String) : String :=
  String.join <|
    (lines text.toList).map fun line =>
      "    " ++ String.ofList line ++ "\n"

/- A node that was selected in a document, and where. -/
def selectedText (i : Nat) (c : Cursor) : String :=
  numbered i ++ c.path.text ++ "\n" ++ indented c.node.yamlText

/- The nodes that are selected in the documents from a position on. -/
def selectedTexts (e : Expression) : Nat → Manifest → List String
  | _, [] => []
  | i, t :: ts =>
      (e.select t).map (selectedText i) ++ selectedTexts e (i + 1) ts

/- Show what an expression selects. -/
def showSelected
    (files : Files)
    (expression manifestPath : String) : Action Unit := do
  let e ← Action.ofExcept .expression (Expression.read expression)
  let manifest ← readManifest files manifestPath
  Action.print (String.join (selectedTexts e 0 manifest))

------------------------------------------------------------
-- Models
------------------------------------------------------------

/- Show what identifies the documents. -/
def showModels (files : Files) (manifestPath : String) :
    Action Unit := do
  let manifest ← readManifest files manifestPath
  let models := manifest.map fun t => (Resource.ofTree t).toJson
  Action.print ((Json.array models).pretty ++ "\n")

------------------------------------------------------------
-- Commands
------------------------------------------------------------

/- The files that a command reads. -/
def inputs : Command → List String
  | .run recipe _ manifest => [recipe, manifest]
  | .query _ manifest => [manifest]
  | .model manifest => [manifest]

/- The outcome of a command. -/
def outcome (files : Files) (c : Command) : Outcome :=
  Outcome.ofAction <|
    match c with
    | .run recipe output manifest =>
        runRecipe files recipe output manifest
    | .query expression manifest =>
        showSelected files expression manifest
    | .model manifest => showModels files manifest

end Command

/- The outcome of some arguments. -/
def CommandLine.outcome (files : Files) (arguments : List String) :
    Outcome :=
  match Command.ofArguments? arguments with
  | some c => c.outcome files
  | none => Outcome.misused

end ManifestRecipes
