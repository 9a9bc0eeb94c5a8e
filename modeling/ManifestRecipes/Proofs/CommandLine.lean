import ManifestRecipes.CommandLine
import ManifestRecipes.Proofs.Failure
import ManifestRecipes.Proofs.Mapping
import ManifestRecipes.Proofs.Run

/-
  What a run on the command line leaves behind.

  A command reads its recipe and its manifest before it opens
  its output.  A run whose recipe or manifest is rejected leaves
  all files as they were and no more than a message.  Any other
  run writes a document for each that it has read, also for
  those that it fails on, and reports the findings before the
  faults.

  Key definitions include:
    * `Outcome.Withheld`
    * `Outcome.Delivers`
    * `Command.RecipeRejected`
    * `Command.ManifestRejected`
    * `Command.Completes`
    * `Recipe.findingLines`
    * `Recipe.faultLines`

  Main declarations:
    * `Action.runFrom_bind_ok`
    * `Action.runFrom_bind_error`
    * `Command.exists_recipe_or_rejected`
    * `Command.exists_manifest_or_rejected`
    * `Command.report_run`
    * `CommandLine.run_withholds_or_delivers`
-/

namespace ManifestRecipes

------------------------------------------------------------
-- Files
------------------------------------------------------------

namespace Files

variable {files : Files} {path name text : String}

theorem after_nil (files : Files) : files.after [] = files := by
  rfl

theorem read_after_same (hName : files.name path = name) :
    (files.after [(name, text)]).read path = .ok text := by
  simp [after, Mapping.get?, hName]

theorem read_after_other (hName : files.name path ≠ name) :
    (files.after [(name, text)]).read path = files.read path := by
  simp [after, Mapping.get?, hName.symm]

end Files

------------------------------------------------------------
-- Actions
------------------------------------------------------------

namespace Action

variable {α β : Type} {a : Action α} {k : α → Action β}
variable {done next : Effects} {x : α} {f : CommandFault}

/- A step that succeeds hands over its result and what was done. -/
theorem runFrom_bind_ok (hStep : a.runFrom done = (.ok x, next)) :
    (a >>= k).runFrom done = (k x).runFrom next := by
  rw [runFrom] at hStep
  rw [runFrom, ExceptT.run_bind, StateT.run_bind, hStep]
  rfl

/- A step that fails is the last one. -/
theorem runFrom_bind_error
    (hStep : a.runFrom done = (.error f, next)) :
    (a >>= k).runFrom done = (.error f, next) := by
  rw [runFrom] at hStep
  rw [runFrom, ExceptT.run_bind, StateT.run_bind, hStep]
  rfl

/- A result is handed over, and a fault ends the command. -/
theorem runFrom_ofExcept
    {ε : Type}
    (fault : ε → CommandFault)
    (result : Except ε α)
    (done : Effects) :
    (ofExcept fault result).runFrom done =
      (result.mapError fault, done) := by
  rfl

theorem runFrom_read
    (files : Files)
    (fault : FileFault → CommandFault)
    (path : String)
    (done : Effects) :
    (read files fault path).runFrom done =
      (((files.after done.written).read path).mapError fault,
        done) := by
  rfl

theorem runFrom_report (text : String) (done : Effects) :
    (report text).runFrom done =
      (.ok (), { done with errors := done.errors ++ text }) := by
  rfl

end Action

------------------------------------------------------------
-- Outcomes
------------------------------------------------------------

namespace Outcome

/- A failure without output leaves all files as they were. -/
structure Withheld (files : Files) (o : Outcome) : Prop where
  code : o.code = 1
  output : o.output = ""
  unwritten : o.written = []
  kept : o.leaves files = files

/-
  A text is delivered to an output.  It is printed for a
  hyphen, and otherwise the file of the output holds it in the
  end, whatever it held before, and no other file has changed.
-/
structure Delivers
    (files : Files)
    (o : Outcome)
    (output text : String) : Prop where
  printed : output = "-" → o.output = text ∧ o.leaves files = files
  stored : output ≠ "-" →
    o.output = "" ∧ o.written = [(files.name output, text)]
  replaced : ∀ path, output ≠ "-" →
    files.name path = files.name output →
      (o.leaves files).read path = .ok text
  kept : ∀ path, files.name path ≠ files.name output →
    (o.leaves files).read path = files.read path

variable {files : Files} {output text : String}

theorem withheld_of_fault
    {a : Action Unit}
    {f : CommandFault}
    (hFault : a.runFrom .none = (.error f, .none)) :
    (ofAction a).Withheld files := by
  rw [ofAction, hFault]
  exact ⟨rfl, rfl, rfl, files.after_nil⟩

/- A printed text is delivered to the hyphen. -/
theorem delivers_printed
    {o : Outcome}
    (hOutput : o.output = text)
    (hWritten : o.written = []) :
    o.Delivers files "-" text := by
  have hLeaves : o.leaves files = files := by
    rw [leaves, hWritten, files.after_nil]
  constructor
  · intro _
    exact ⟨hOutput, hLeaves⟩
  · intro hFile
    exact absurd rfl hFile
  · intro path hFile
    exact absurd rfl hFile
  · intro path _
    rw [hLeaves]

/- A written text is delivered to its file. -/
theorem delivers_written
    {o : Outcome}
    (hFile : output ≠ "-")
    (hOutput : o.output = "")
    (hWritten : o.written = [(files.name output, text)]) :
    o.Delivers files output text := by
  constructor
  · intro hPrinted
    exact absurd hPrinted hFile
  · intro _
    exact ⟨hOutput, hWritten⟩
  · intro path _ hSame
    rw [leaves, hWritten]
    exact Files.read_after_same hSame
  · intro path hOther
    rw [leaves, hWritten]
    exact Files.read_after_other hOther

end Outcome

------------------------------------------------------------
-- Inputs
------------------------------------------------------------

namespace Command

variable {files : Files} {path : String}

/- A file configures a recipe. -/
def HasRecipe (files : Files) (path : String) (r : Recipe) : Prop :=
  ∃ text o, files.read path = .ok text ∧
    Options.read text = .ok o ∧ o.build = .ok r

/- A file holds a manifest. -/
def HasManifest (files : Files) (path : String) (m : Manifest) :
    Prop :=
  ∃ text, files.read path = .ok text ∧ Manifest.read text = .ok m

/- There is no recipe in a file. -/
inductive RecipeRejected (files : Files) (path : String) : Prop where
  /- The file cannot be read. -/
  | file {f : FileFault}
      (hFile : files.read path = .error f)
  /- It is no configuration. -/
  | configuration {text : String} {f : Recipe.Fault}
      (hFile : files.read path = .ok text)
      (hOptions : Options.read text = .error f)
  /- It has options that cannot be used. -/
  | options {text : String} {o : Options} {f : Recipe.Fault}
      (hFile : files.read path = .ok text)
      (hOptions : Options.read text = .ok o)
      (hBuild : o.build = .error f)

/- There is no manifest in a file. -/
inductive ManifestRejected (files : Files) (path : String) :
    Prop where
  /- The file cannot be read. -/
  | file {f : FileFault}
      (hFile : files.read path = .error f)
  /- It holds something else. -/
  | text {text : String} {f : Yaml.Fault}
      (hFile : files.read path = .ok text)
      (hManifest : Manifest.read text = .error f)

section Reading

variable (done : Effects)

theorem runFrom_readRecipe
    {text : String}
    (hFile : (files.after done.written).read path = .ok text) :
    (readRecipe files path).runFrom done =
      ((Recipe.read text).mapError (.recipe path), done) := by
  have hText :
      (Action.read files (.recipeFile path) path).runFrom done =
        (.ok text, done) := by
    rw [Action.runFrom_read, hFile]
    rfl
  rw [readRecipe, Action.runFrom_bind_ok hText,
    Action.runFrom_ofExcept]

theorem HasRecipe.runFrom_eq
    {r : Recipe}
    (hRecipe : HasRecipe (files.after done.written) path r) :
    (readRecipe files path).runFrom done = (.ok r, done) := by
  rcases hRecipe with ⟨text, o, hFile, hOptions, hBuild⟩
  rw [runFrom_readRecipe done hFile, Recipe.read, hOptions]
  change (o.build.mapError _, done) = _
  rw [hBuild]
  rfl

/- Reading fails where there is none. -/
theorem RecipeRejected.exists_fault
    (hRejected : RecipeRejected (files.after done.written) path) :
    ∃ f, (readRecipe files path).runFrom done = (.error f, done) := by
  cases hRejected with
  | @file f hFile =>
      refine ⟨.recipeFile path f, Action.runFrom_bind_error ?_⟩
      rw [Action.runFrom_read, hFile]
      rfl
  | @configuration _ f hFile hOptions =>
      refine ⟨.recipe path f, ?_⟩
      rw [runFrom_readRecipe done hFile, Recipe.read, hOptions]
      rfl
  | @options _ o f hFile hOptions hBuild =>
      refine ⟨.recipe path f, ?_⟩
      rw [runFrom_readRecipe done hFile, Recipe.read, hOptions]
      change (o.build.mapError _, done) = _
      rw [hBuild]
      rfl

theorem runFrom_readManifest
    {text : String}
    (hFile : (files.after done.written).read path = .ok text) :
    (readManifest files path).runFrom done =
      ((Manifest.read text).mapError (.manifest path), done) := by
  have hText :
      (Action.read files (.manifestFile path) path).runFrom done =
        (.ok text, done) := by
    rw [Action.runFrom_read, hFile]
    rfl
  rw [readManifest, Action.runFrom_bind_ok hText,
    Action.runFrom_ofExcept]

theorem HasManifest.runFrom_eq
    {m : Manifest}
    (hManifest : HasManifest (files.after done.written) path m) :
    (readManifest files path).runFrom done = (.ok m, done) := by
  rcases hManifest with ⟨text, hFile, hText⟩
  rw [runFrom_readManifest done hFile, hText]
  rfl

/- Reading fails where there is none. -/
theorem ManifestRejected.exists_fault
    (hRejected : ManifestRejected (files.after done.written) path) :
    ∃ f, (readManifest files path).runFrom done =
      (.error f, done) := by
  cases hRejected with
  | @file f hFile =>
      refine ⟨.manifestFile path f, Action.runFrom_bind_error ?_⟩
      rw [Action.runFrom_read, hFile]
      rfl
  | @text _ f hFile hText =>
      refine ⟨.manifest path f, ?_⟩
      rw [runFrom_readManifest done hFile, hText]
      rfl

end Reading

/- A file has a recipe, or the recipe is rejected. -/
theorem exists_recipe_or_rejected (files : Files) (path : String) :
    (∃ r, HasRecipe files path r) ∨ RecipeRejected files path := by
  cases hFile : files.read path with
  | error f => exact Or.inr (.file hFile)
  | ok text =>
      cases hOptions : Options.read text with
      | error f => exact Or.inr (.configuration hFile hOptions)
      | ok o =>
          cases hBuild : o.build with
          | error f => exact Or.inr (.options hFile hOptions hBuild)
          | ok r => exact Or.inl ⟨r, text, o, hFile, hOptions, hBuild⟩

/- A file has a manifest, or the manifest is rejected. -/
theorem exists_manifest_or_rejected
    (files : Files)
    (path : String) :
    (∃ m, HasManifest files path m) ∨ ManifestRejected files path := by
  cases hFile : files.read path with
  | error f => exact Or.inr (.file hFile)
  | ok text =>
      cases hText : Manifest.read text with
      | error f => exact Or.inr (.text hFile hText)
      | ok m => exact Or.inl ⟨m, text, hFile, hText⟩

end Command

------------------------------------------------------------
-- Reports
------------------------------------------------------------

namespace Recipe

/- The lines about the findings, document by document. -/
def findingLines (r : Recipe) (m : Manifest) : List String :=
  m.zipIdx.flatMap fun (t, i) =>
    (r.findingsIn t).map fun f =>
      "[" ++ Digits.text i ++ "] " ++ f.path.text ++ ": " ++
        f.message ++ "\n"

/- The lines about the faults, document by document. -/
def faultLines (r : Recipe) (m : Manifest) : List String :=
  m.zipIdx.filterMap fun (t, i) =>
    (r.faultIn? t).map fun f =>
      "[" ++ Digits.text i ++ "] error: " ++ f.message ++ "\n"

/- The last line of a run that fails on some documents. -/
def failureLine (r : Recipe) (m : Manifest) : List String :=
  if r.faultLines m = [] then []
  else [CommandFault.line (.documents r.name (r.faultLines m).length)]

end Recipe

namespace Command

theorem findingLines_eq (r : Recipe) (m : Manifest) :
    r.findingLines m =
      (r.run m).findings.map fun (i, f) =>
        numbered i ++ f.text ++ "\n" := by
  rw [Recipe.run, Recipe.findings_runFrom, List.map_flatMap]
  unfold Recipe.findingLines
  apply congrArg (List.flatMap · _)
  funext e
  rw [List.map_map]
  apply congrArg (List.map · _)
  funext f
  simp [numbered, Finding.text, String.append_assoc]

theorem faultLines_eq (r : Recipe) (m : Manifest) :
    r.faultLines m =
      (r.run m).faults.map fun (i, f) =>
        numbered i ++ "error: " ++ f.message ++ "\n" := by
  rw [Recipe.run, Recipe.faults_runFrom, List.map_filterMap]
  unfold Recipe.faultLines
  apply List.filterMap_congr
  intro e _
  rw [Option.map_map]
  apply congrArg (Option.map · _)
  funext f
  simp [numbered, String.append_assoc]

theorem failureLine_eq (r : Recipe) (m : Manifest) :
    r.failureLine m =
      (runFault? r (r.run m)).toList.map CommandFault.line := by
  rw [Recipe.failureLine, faultLines_eq, runFault?, Run.isOk,
    List.length_map]
  cases (r.run m).faults <;> rfl

/- A report has the findings first, then the faults and their number. -/
theorem report_run (r : Recipe) (m : Manifest) :
    String.join (reportLines (r.run m)) ++
        String.join
          ((runFault? r (r.run m)).toList.map CommandFault.line) =
      String.join
        (r.findingLines m ++ r.faultLines m ++ r.failureLine m) := by
  rw [← String.join_append, reportLines, failureLine_eq,
    findingLines_eq, faultLines_eq]

------------------------------------------------------------
-- Outputs
------------------------------------------------------------

variable {files : Files} {recipe output manifest text : String}

/- An output is to be printed or can be written. -/
def Creatable (files : Files) (output : String) : Prop :=
  output = "-" ∨ files.refusal? output = none

/- What is done when a text has gone to an output. -/
def delivered (files : Files) (output text : String) : Effects :=
  if output = "-" then ⟨text, "", []⟩
  else ⟨"", "", [(files.name output, text)]⟩

theorem errors_delivered (files : Files) (output text : String) :
    (delivered files output text).errors = "" := by
  unfold delivered
  split <;> rfl

/- An outcome that has done no less and no more delivers the text. -/
theorem delivers_delivered
    {o : Outcome}
    (hOutput : o.output = (delivered files output text).output)
    (hWritten : o.written = (delivered files output text).written) :
    o.Delivers files output text := by
  unfold delivered at hOutput hWritten
  by_cases hPrinted : output = "-"
  · rw [if_pos hPrinted] at hOutput hWritten
    subst hPrinted
    exact Outcome.delivers_printed hOutput hWritten
  · rw [if_neg hPrinted] at hOutput hWritten
    exact Outcome.delivers_written hPrinted hOutput hWritten

/- An output is opened, and what goes there is delivered. -/
theorem exists_target
    (hOutput : Creatable files output)
    (text : String) :
    ∃ target opened,
      (Target.ofOutput files output).runFrom .none =
        (.ok target, opened) ∧
      (target.write text).runFrom opened =
        (.ok (), delivered files output text) := by
  by_cases hPrinted : output = "-"
  · refine ⟨.terminal, .none, ?_, ?_⟩
    · rw [Target.ofOutput, if_pos hPrinted]
      rfl
    · rw [delivered, if_pos hPrinted]
      change (_, Effects.mk ("" ++ text) "" []) = _
      rw [String.empty_append]
  · have hFile := hOutput.resolve_left hPrinted
    refine ⟨.file (files.name output),
      ⟨"", "", [(files.name output, "")]⟩, ?_, ?_⟩
    · rw [Target.ofOutput, if_neg hPrinted]
      apply Action.runFrom_bind_ok
      rw [Action.create, hFile]
      rfl
    · rw [delivered, if_neg hPrinted, Target.write]
      change (_, Effects.mk "" "" (Mapping.insert _ _ _)) = _
      simp [Mapping.get?, Mapping.insert]

/- An output that cannot be opened is a fault. -/
theorem exists_fault_of_refused
    (hOutput : ¬ Creatable files output)
    (done : Effects) :
    ∃ f, (Target.ofOutput files output).runFrom done =
      (.error f, done) := by
  rw [Creatable, not_or] at hOutput
  obtain ⟨f, hRefused⟩ := Option.ne_none_iff_exists'.mp hOutput.2
  refine ⟨.outputFile output f, ?_⟩
  rw [Target.ofOutput, if_neg hOutput.1]
  apply Action.runFrom_bind_error
  rw [Action.create, hRefused]
  rfl

------------------------------------------------------------
-- Runs
------------------------------------------------------------

/-
  A recipe runs on a manifest to the end.  Its documents are
  delivered, also those that it fails on, the findings are
  reported before the faults, and the exit code tells whether
  there was a fault.
-/
structure Completes
    (files : Files)
    (recipe output manifest : String)
    (o : Outcome)
    (r : Recipe)
    (m : Manifest) : Prop where
  recipe : HasRecipe files recipe r
  manifest : HasManifest files manifest m
  delivers : o.Delivers files output
    (Manifest.text (r.run m).documents)
  errors : o.errors = String.join
    (r.findingLines m ++ r.faultLines m ++ r.failureLine m)
  code : o.code = 0 ↔ ∀ t ∈ m, ∃ v, r.visit t = .ok v

/- A run fails at once when its recipe or its manifest is rejected. -/
theorem exists_fault_of_rejected
    (hRejected :
      RecipeRejected files recipe ∨ ManifestRejected files manifest) :
    ∃ f, (runRecipe files recipe output manifest).runFrom .none =
      (.error f, .none) := by
  have hUnread (hRecipe : RecipeRejected files recipe) :
      ∃ f, (runRecipe files recipe output manifest).runFrom .none =
        (.error f, .none) := by
    rcases RecipeRejected.exists_fault .none hRecipe with
      ⟨f, hFault⟩
    exact ⟨f, Action.runFrom_bind_error hFault⟩
  rcases hRejected with hRecipe | hManifest
  · exact hUnread hRecipe
  · -- The recipe is read first, and it may be rejected as well.
    rcases exists_recipe_or_rejected files recipe with
      ⟨r, hRecipe⟩ | hRecipe
    · rcases ManifestRejected.exists_fault .none hManifest with
        ⟨f, hFault⟩
      refine ⟨f, ?_⟩
      rw [runRecipe, Action.runFrom_bind_ok
        (HasRecipe.runFrom_eq .none hRecipe)]
      exact Action.runFrom_bind_error hFault
    · exact hUnread hRecipe

/- A run of what is there applies the recipe to the manifest. -/
theorem runFrom_runRecipe
    {r : Recipe}
    {m : Manifest}
    (hRecipe : HasRecipe files recipe r)
    (hManifest : HasManifest files manifest m) :
    (runRecipe files recipe output manifest).runFrom .none =
      (applyRecipe files output r m).runFrom .none := by
  rw [runRecipe,
    Action.runFrom_bind_ok (HasRecipe.runFrom_eq .none hRecipe),
    Action.runFrom_bind_ok (HasManifest.runFrom_eq .none hManifest)]

/- It fails at once when its output cannot be opened. -/
theorem exists_fault_of_not_creatable
    {r : Recipe}
    {m : Manifest}
    (hRecipe : HasRecipe files recipe r)
    (hManifest : HasManifest files manifest m)
    (hOutput : ¬ Creatable files output) :
    ∃ f, (runRecipe files recipe output manifest).runFrom .none =
      (.error f, .none) := by
  rcases exists_fault_of_refused hOutput .none with ⟨f, hFault⟩
  refine ⟨f, ?_⟩
  rw [runFrom_runRecipe hRecipe hManifest]
  exact Action.runFrom_bind_error hFault

theorem runFault?_eq_none_iff {recipe : Recipe} {r : Run} :
    runFault? recipe r = none ↔ r.isOk = true := by
  unfold runFault?
  split <;> simp_all

/-
  The outcome of a run of what is there: the documents are
  delivered, the report is made, and the exit code tells whether
  a document failed.
-/
theorem outcome_runRecipe
    {r : Recipe}
    {m : Manifest}
    (hRecipe : HasRecipe files recipe r)
    (hManifest : HasManifest files manifest m)
    (hOutput : Creatable files output) :
    Outcome.ofAction (runRecipe files recipe output manifest) =
      ⟨{ delivered files output (Manifest.text (r.run m).documents)
          with
          errors := String.join
            (r.findingLines m ++ r.faultLines m ++
              r.failureLine m) },
        if (r.run m).isOk then 0 else 1⟩ := by
  obtain ⟨target, opened, hOpened, hWritten⟩ :=
    exists_target hOutput (Manifest.text (r.run m).documents)
  rw [Outcome.ofAction, runFrom_runRecipe hRecipe hManifest,
    applyRecipe,
    Action.runFrom_bind_ok hOpened,
    Action.runFrom_bind_ok hWritten,
    Action.runFrom_bind_ok (Action.runFrom_report ..), ← report_run,
    errors_delivered, String.empty_append]
  cases hFault : runFault? r (r.run m) with
  | none =>
      rw [runFault?_eq_none_iff.mp hFault, Option.toList_none,
        List.map_nil, String.join_nil, String.append_empty]
      rfl
  | some f =>
      have hFailed : (r.run m).isOk = false := by
        rw [← Bool.not_eq_true, ← runFault?_eq_none_iff, hFault]
        exact Option.some_ne_none f
      rw [hFailed, Option.toList_some, List.map_singleton,
        String.join_cons, String.join_nil, String.append_empty]
      rfl

end Command

/-
  A run whose recipe or manifest is rejected fails, prints no
  output and leaves all files as they were, and so does one
  whose output cannot be opened.  Any other run delivers to its
  output what the recipe leaves of the manifest, reports all
  findings and then all faults, each in the order of the
  documents, and succeeds exactly when no document fails.
-/
theorem CommandLine.run_withholds_or_delivers
    (files : Files)
    (arguments : List String)
    (recipe output manifest : String)
    (hRun : Command.ofArguments? arguments =
      some (.run recipe output manifest)) :
    let o := CommandLine.outcome files arguments
    let rejected := Command.RecipeRejected files recipe ∨
      Command.ManifestRejected files manifest
    (rejected ∨ ¬ Command.Creatable files output →
      o.Withheld files) ∧
    (¬ rejected → Command.Creatable files output →
      ∃ r m,
        Command.Completes files recipe output manifest o r m) := by
  intro o rejected
  have hOutcome : o = Outcome.ofAction
      (Command.runRecipe files recipe output manifest) := by
    change CommandLine.outcome files arguments = _
    rw [CommandLine.outcome, hRun]
    rfl
  have hFound (hAccepted : ¬ rejected) :
      ∃ r m, Command.HasRecipe files recipe r ∧
        Command.HasManifest files manifest m := by
    rw [not_or] at hAccepted
    obtain ⟨r, hRecipe⟩ :=
      (Command.exists_recipe_or_rejected files recipe).resolve_right
        hAccepted.1
    obtain ⟨m, hManifest⟩ :=
      (Command.exists_manifest_or_rejected files
        manifest).resolve_right hAccepted.2
    exact ⟨r, m, hRecipe, hManifest⟩
  constructor
  · intro hStopped
    have hFault : ∃ f,
        (Command.runRecipe files recipe output manifest).runFrom
          .none = (.error f, .none) := by
      by_cases hRejected : rejected
      · exact Command.exists_fault_of_rejected hRejected
      · obtain ⟨r, m, hRecipe, hManifest⟩ := hFound hRejected
        exact Command.exists_fault_of_not_creatable hRecipe
          hManifest (hStopped.resolve_left hRejected)
    rcases hFault with ⟨f, hFault⟩
    rw [hOutcome]
    exact Outcome.withheld_of_fault hFault
  · intro hAccepted hOutput
    obtain ⟨r, m, hRecipe, hManifest⟩ := hFound hAccepted
    have hRuns :=
      Command.outcome_runRecipe hRecipe hManifest hOutput
    rw [← hOutcome] at hRuns
    refine ⟨r, m, hRecipe, hManifest, ?_, ?_, ?_⟩
    · rw [hRuns]
      exact Command.delivers_delivered rfl rfl
    · rw [hRuns]
    · rw [hRuns, ← Recipe.isOk_run_iff]
      cases (r.run m).isOk <;> simp

/-
  A run over its own input.  The first of two pods is capped,
  and the second has a limit that cannot be read.
-/
theorem CommandLine.run_withholds_or_delivers_pods :
    let pod (cpu : String) :=
      "kind: Pod\nspec:\n  containers:\n  - resources:\n" ++
        "      limits:\n        cpu: " ++ cpu ++ "\n"
    let files := Files.ofList
      [("cap.yaml",
          "recipe: cap-resource-value-to-maximum\n" ++
            "resourceValueType: limits\nresourceType: cpu\n" ++
              "resourceLimit: 1\n"),
        ("pods.yaml", pod "2" ++ "---\n" ++ pod "x")]
    let arguments :=
      ["run", "-r", "cap.yaml", "-o", "./pods.yaml", "pods.yaml"]
    let o := CommandLine.outcome files arguments
    let rejected := Command.RecipeRejected files "cap.yaml" ∨
      Command.ManifestRejected files "pods.yaml"
    Command.ofArguments? arguments =
      some (.run "cap.yaml" "./pods.yaml" "pods.yaml") ∧
    o = ⟨⟨"",
      "[1] error: malformed quantity \"x\": expected an integer " ++
        "amount\nError: Recipe cap-resource-value-to-maximum " ++
          "failed on 1 document(s); they were written unchanged\n",
      [("pods.yaml", pod "1" ++ "---\n" ++ pod "x")]⟩, 1⟩ ∧
    ¬ rejected ∧ Command.Creatable files "./pods.yaml" ∧
    ∃ r m, Command.Completes files "cap.yaml" "./pods.yaml"
      "pods.yaml" o r m := by
  intro pod files arguments o rejected
  have hRun : Command.ofArguments? arguments =
      some (.run "cap.yaml" "./pods.yaml" "pods.yaml") := by
    decide +kernel
  have hSpec := run_withholds_or_delivers files arguments
    "cap.yaml" "./pods.yaml" "pods.yaml" hRun
  have hOutcome : o = ⟨⟨"",
      "[1] error: malformed quantity \"x\": expected an integer " ++
        "amount\nError: Recipe cap-resource-value-to-maximum " ++
          "failed on 1 document(s); they were written unchanged\n",
      [("pods.yaml", pod "1" ++ "---\n" ++ pod "x")]⟩, 1⟩ := by
    decide +kernel
  have hAccepted : ¬ rejected := by
    intro hRejected
    have hWithheld : o.Withheld files := hSpec.1 (Or.inl hRejected)
    rw [hOutcome] at hWithheld
    cases hWithheld.unwritten
  have hOutput : Command.Creatable files "./pods.yaml" :=
    Or.inr rfl
  exact ⟨hRun, hOutcome, hAccepted, hOutput,
    hSpec.2 hAccepted hOutput⟩

end ManifestRecipes
