import FlowTyping.CommandLine.Arguments
import FlowTyping.CommandLine.Files
import FlowTyping.Error
import FlowTyping.Solver.Guarded

/-!
A run of the program: from the arguments and the files to an exit code and what is printed.
A run finds its configuration, then the unit, and then checks the unit or prints its
signature. Errors of the program's own kinds end a run with a line on the error stream and
exit code 3; others leave the run without an outcome. The streams take whatever text is printed.
-/

namespace FlowTyping.CommandLine

inductive Outcome where
  /-- Reading the arguments ended the run. -/
  | ended (ending : Ending)
  /-- There was no task, so the overview of tasks is printed. -/
  | overview
  /-- A task was worked on: the exit code and the lines on either stream. -/
  | worked (exitCode : Nat) (output errors : List String)

def errorLine (message : String) : String := "Error: " ++ message

def report (message : String) : Outcome := .worked 3 [] [errorLine message]

/-- The names of configuration files, in the order in which they are looked for. -/
def configNames : List String := [".gradflow.yml", ".gradflow.yaml"]

def openDocument (path : TreePath) : FileEntry → Except Error Document
  | .document document => .ok document
  | .broken => .error .brokenFile
  | .directory => .error (.directory path.shown)

/-- The first of some paths that leads to something, with what it leads to. -/
def firstPresent (files : Files) : List TreePath → Except Error (Option (TreePath × FileEntry))
  | [] => .ok none
  | path :: rest =>
    match files path with
    | .found entry => .ok (some (path, entry))
    | .absent => firstPresent files rest
    | .tooLong => .error (.pathTooLong path.shown)

/-- The configuration in a directory: the first of its configuration files, or the default.
A document that is not given counts as empty. -/
def loadConfig (files : Files) (root : TreePath) : Except Error Config := do
  match ← firstPresent files (configNames.map root.child) with
  | none => pure {}
  | some (path, entry) =>
    let document ← openDocument path entry
    let given := if document.isGiven then document else .mapping []
    match Config.ofDocument given with
    | .ok config => pure config
    | .error e => throw (.config e)

/-- Whether an error while loading the configuration is reported. -/
def reportedOnLoad (e : Error) : Bool :=
  match e.family with
  | .engine => true
  | .document => true
  | .opening => true
  | _ => false

/-- Whether an error while working on a task is reported. -/
def reportedAtWork (e : Error) : Bool :=
  match e.family with
  | .engine => true
  | .document => true
  | .value => true
  | _ => false

def openUnit (path : TreePath) (entry : FileEntry) : Except Error UnitFile := do
  let document ← openDocument path entry
  match UnitFile.ofDocument path.shown document with
  | .ok file => pure file
  | .error e => throw (.unit e)

/-- An error of a unit file as an error of the program. -/
def ofUnit {α : Type} : Except UnitError α → Except Error α
  | .ok a => .ok a
  | .error e => .error (.unit e)

def verdictLog (threshold : Threshold) (labels : Labels) : Verdict → List String
  | .satisfiable _ => []
  | .unsatisfiable reason conflicts =>
    if threshold.lets .info then
      ["INFO:gradflow.solver:Unsatisfiable (" ++ reason.message labels ++ "); " ++
        toString conflicts.length ++ " flow conflicts"]
    else []

/-- The outcome of a verdict. A conflict that cannot be shown ends the run with an error, behind
the lines of the conflicts before it. -/
def announce (domain : Domain) (threshold : Threshold) (labels : Labels) (verdict : Verdict) :
    Outcome :=
  let log := verdictLog threshold labels verdict
  match verdict with
  | .satisfiable assignment =>
    .worked 0 ("SAT" :: assignment.bindings.map
      (fun binding => "  " ++ labels binding.1 ++ " = " ++ domain.format binding.2)) log
  | .unsatisfiable reason conflicts =>
    let shown := conflicts.takeWhile (fun conflict => !conflict.isLong)
    let lines := ("UNSAT: " ++ reason.message labels) ::
      shown.map (fun conflict => "  " ++ conflict.shown)
    if conflicts.any FlowConflict.isLong then
      .worked 3 lines (log ++ [errorLine (Text.TooManyDigits.message ⟨none⟩)])
    else .worked 1 lines log

def checkUnit (config : Config) (threshold : Threshold) (domain : Domain) (file : UnitFile) :
    Except Error Outcome := do
  let unit ← ofUnit (file.read domain (Namespace.create 1 "x"))
  let labels := unit.space.label
  let check := if config.crossCheck then CrossCheck.search else CrossCheck.off
  match domain.solve unit.constraints unit.tags unit.fixed check with
  | .error e => if reportedAtWork e then pure (report (e.message labels)) else throw e
  | .ok verdict => pure (announce domain threshold labels verdict)

def effectsLine (effects : Effects) : String :=
  let levels := ", ".intercalate (effects.toList.map Literal.shown)
  "effects: " ++ (if levels.isEmpty then "-" else levels)

def signatureLines (domain : Domain) (json : Bool) (signature : Signature) : List String :=
  if json then [signature.toJson domain { indent := some "  " }]
  else
    signature.constraints.toList.map SymbolConstraint.shown ++ [effectsLine signature.effects]

def printSignature (domain : Domain) (json : Bool) (file : UnitFile) : Except Error Outcome := do
  let unit ← ofUnit (file.read domain (Namespace.create 1 "x"))
  let effects ← ofUnit (file.readEffects domain)
  let count ← ofUnit file.paramCount
  match (Signature.ofUnit domain.lattice unit.constraints unit.space count effects).1 with
  | .error e => pure (report (e.message unit.space.label))
  | .ok signature => pure (.worked 0 (signatureLines domain json signature) [])

def work (config : Config) (threshold : Threshold) (job : Job) (path : TreePath)
    (entry : FileEntry) : Except Error Outcome := do
  match config.domain with
  | .error e => throw (.lattice e)
  | .ok domain =>
    let file ← openUnit path entry
    match job.task with
    | .check => checkUnit config threshold domain file
    | .signature => printSignature domain job.json file

/-- Reports an error if it is of a kind to be reported. Errors that name a variable of the
unit are reported where the unit is at hand, so no variable needs a hint here. -/
def settle (reported : Error → Bool) : Except Error Outcome → Except Error Outcome
  | .ok outcome => .ok outcome
  | .error e => if reported e then .ok (report (e.message (fun v => v.shownAs ""))) else .error e

def run (arguments : List String) (files : Files) : Except Error Outcome :=
  match readArguments arguments with
  | .error ending => .ok (.ended ending)
  | .ok request =>
    match request.job with
    | none => .ok .overview
    | some job =>
      match loadConfig files (TreePath.ofText (request.config.getD "")) with
      | .error e => settle reportedOnLoad (.error e)
      | .ok config =>
        let threshold := if request.verbose then .debug else config.threshold
        let path := TreePath.ofText job.unit
        match files path with
        | .tooLong => .error (.pathTooLong path.shown)
        | .absent => .ok (report ("Unit file not found: " ++ path.shown))
        | .found entry => settle reportedAtWork (work config threshold job path entry)

end FlowTyping.CommandLine
