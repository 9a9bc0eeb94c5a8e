/-
  The arguments of the command line.

  A command is named by the first argument that is no option.
  Options may stand before, between and behind the others,
  each at most once; two hyphens end them.

  Key definitions include:
    * `Command`
    * `Arguments`
    * `Arguments.scan`
    * `Command.ofArguments?`
-/

namespace ManifestRecipes

/- What the command line can be asked to do. -/
inductive Command where
  /- Apply a recipe to a manifest. -/
  | run (recipe output manifest : String)
  /- Show what an expression selects in a manifest. -/
  | query (expression manifest : String)
  /- Show what identifies the documents of a manifest. -/
  | model (manifest : String)
deriving DecidableEq, Repr

/- Arguments that were read: options with their values, and the others. -/
structure Arguments where
  options : List (String × String)
  others : List String
deriving DecidableEq, Repr

namespace Arguments

------------------------------------------------------------
-- Options
------------------------------------------------------------

/- What one argument means. -/
inductive Meaning where
  /- The argument is no option. -/
  | other
  /- It gives options that are complete. -/
  | given (options : List (String × String))
  /- It gives options, and the value of the last is to follow. -/
  | waiting (options : List (String × String)) (name : String)
  /- It has options that there are not. -/
  | unknown
deriving DecidableEq, Repr

/- The options that take a value, by letter and by name. -/
abbrev Valued :=
  List (Char × String)

/- The option that takes no value. -/
def verbose : String :=
  "verbose"

/- An argument with one more option in front. -/
def Meaning.behind (option : String × String) : Meaning → Meaning
  | .given options => .given (option :: options)
  | .waiting options name => .waiting (option :: options) name
  | m => m

/- The value that is written behind an option's letter. -/
def attached : List Char → List Char
  | '=' :: cs => cs
  | cs => cs

/- The meaning of letters behind one hyphen. -/
def letters (valued : Valued) : List Char → Meaning
  | [] => .given []
  | c :: cs =>
      if c = 'v' then (letters valued cs).behind (verbose, "")
      else
        match valued.lookup c with
        | some name =>
            if cs.isEmpty then .waiting [] name
            else .given [(name, String.ofList (attached cs))]
        | none => .unknown

/- The meaning of a name behind two hyphens, and of its value if one is attached. -/
def named (valued : Valued) (name : String) (value? : Option String) :
    Meaning :=
  if (valued.map Prod.snd).contains name then
    match value? with
    | some value => .given [(name, value)]
    | none => .waiting [] name
  else if name = verbose && value?.isNone then .given [(verbose, "")]
  else .unknown

/- The meaning of an argument other than two hyphens. -/
def meaning (valued : Valued) (argument : String) : Meaning :=
  match argument.toList with
  | '-' :: '-' :: cs =>
      let name := String.ofList (cs.takeWhile (· ≠ '='))
      match cs.dropWhile (· ≠ '=') with
      | [] => named valued name none
      | _ :: value => named valued name (some (String.ofList value))
  | '-' :: c :: cs => letters valued (c :: cs)
  | _ => .other

/- An argument that begins with a hyphen and goes on. -/
def isOption (argument : String) : Bool :=
  match argument.toList with
  | '-' :: _ :: _ => true
  | _ => false

------------------------------------------------------------
-- Scanning
------------------------------------------------------------

/- Add an option, unless it was given before. -/
def addOption? (a : Arguments) (option : String × String) :
    Option Arguments :=
  if (a.options.map Prod.fst).contains option.1 then none
  else some { a with options := option :: a.options }

def addOptions? (a : Arguments) (options : List (String × String)) :
    Option Arguments :=
  options.foldlM addOption? a

/- Read the arguments of a command. -/
def scan (valued : Valued) (a : Arguments) :
    List String → Option Arguments
  | [] => some a
  | argument :: rest =>
      if argument = "--" then
        some { a with others := a.others ++ rest }
      else
        match meaning valued argument, rest with
        | .other, rest =>
            scan valued { a with others := a.others ++ [argument] } rest
        | .given options, rest => do
            scan valued (← a.addOptions? options) rest
        | .waiting options name, value :: rest =>
            if isOption value then none
            else do
              scan valued
                (← a.addOptions? (options ++ [(name, value)])) rest
        | _, _ => none

/- Read the options before a command, with the command and the rest. -/
def scanCommand (a : Arguments) :
    List String → Option (String × List String)
  | [] => none
  | argument :: rest =>
      match meaning [] argument with
      | .other => some (argument, rest)
      | .given options => do
          scanCommand (← a.addOptions? options) rest
      | _ => none

def empty : Arguments :=
  ⟨[], []⟩

/- The value of an option that names a file. -/
def file? (a : Arguments) (name : String) : Option String :=
  (a.options.lookup name).filter (· ≠ "")

end Arguments

namespace Command

open Arguments

def runOptions : Valued :=
  [('r', "recipe"), ('o', "output")]

/- The command of some arguments; a manifest must have a name. -/
def ofParts? (name : String) (rest : List String) :
    Option Command := do
  if name = "run" then
    let a ← scan runOptions Arguments.empty rest
    let recipe ← a.file? "recipe"
    let output := (a.options.lookup "output").getD "-"
    match a.others with
    | [manifest] =>
        if manifest = "" then none
        else some (.run recipe output manifest)
    | _ => none
  else if name = "query" then
    let a ← scan [] Arguments.empty rest
    match a.others with
    | [expression, manifest] =>
        if manifest = "" then none
        else some (.query expression manifest)
    | _ => none
  else if name = "model" then
    let a ← scan [] Arguments.empty rest
    match a.others with
    | [manifest] =>
        if manifest = "" then none else some (.model manifest)
    | _ => none
  else none

/- The command of the arguments. -/
def ofArguments? (arguments : List String) : Option Command := do
  let (name, rest) ← scanCommand Arguments.empty arguments
  ofParts? name rest

end Command

end ManifestRecipes
