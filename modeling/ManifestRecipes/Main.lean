import ManifestRecipes.CommandLine

/-
  The program.

  It reads the files that a command asks for, and prints and
  writes what the outcome says.
-/

namespace ManifestRecipes

namespace Program

/- Why a file could not be used. -/
def faultOf (e : IO.Error) : FileFault :=
  match e with
  | .noFileOrDirectory _ _ _ => .missing
  | e => .other (toString e)

/- The text of a file, or why it cannot be read. -/
def readInput (path : String) :
    IO (String × Except FileFault String) := do
  try
    return (path, .ok (← IO.FS.readFile path))
  catch e =>
    return (path, .error (faultOf e))

/- The files that were read; whether one can be written turns out later. -/
def filesOf (inputs : List (String × Except FileFault String)) :
    Files :=
  ⟨fun path => (inputs.lookup path).getD (.error .missing),
    fun _ => none, id⟩

/- The fault of an outcome whose file cannot be written, if there is one. -/
def write? (o : Outcome) : IO (Option CommandFault) := do
  match o.written? with
  | none => return none
  | some (path, text) =>
      try
        IO.FS.writeFile path text
        return none
      catch e =>
        return some (.outputFile path (faultOf e))

/- Write and print an outcome. -/
def perform (o : Outcome) : IO UInt32 := do
  let failed f := Outcome.ofAction (throw f)
  let o := ((← write? o).map failed).getD o
  IO.print o.output
  IO.eprint o.errors
  return UInt32.ofNat o.code

end Program

end ManifestRecipes

open ManifestRecipes

/- Run the command that the arguments name. -/
def main (arguments : List String) : IO UInt32 := do
  match Command.ofArguments? arguments with
  | some c =>
      let inputs ← c.inputs.mapM Program.readInput
      Program.perform (c.outcome (Program.filesOf inputs))
  | none => Program.perform Outcome.misused
