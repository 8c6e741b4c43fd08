import FlowTyping.CommandLine.Run
import FlowTyping.Document.Json.Reader

namespace FlowTyping.CommandLine

def overviewText : String :=
  "usage: flowtyping [-h] [--verbose] [--config CONFIG] \x7bcheck,signature\x7d ...\n\n" ++
  "  check UNIT               satisfiability, least assignment, conflicts\n" ++
  "  signature [--json] UNIT  projected signature of the unit"

def readEntry (path : TreePath) : IO Lookup := do
  try
    let text ← IO.FS.readFile (Text.toPlain path.shown)
    match Json.read (Text.ofPlain text) with
    | .ok document => pure (.found (.document document))
    | .error _ => pure (.found .broken)
  catch e =>
    match e with
    | .inappropriateType .. => pure (.found .directory)
    | .invalidArgument .. => pure .tooLong
    | _ => pure .absent

def pathsOf (request : Request) : List TreePath :=
  let root := TreePath.ofText (request.config.getD "")
  configNames.map root.child ++ request.job.toList.map (fun job => TreePath.ofText job.unit)

/-- Prints an outcome and gives its exit code. -/
def finish : Outcome → IO UInt32
  | .ended ending => do
    if ending = .help then IO.println overviewText else IO.eprintln overviewText
    pure ending.exitCode.toUInt32
  | .overview => do
    IO.println overviewText
    pure 0
  | .worked exitCode output errors => do
    errors.forM (fun line => IO.eprintln (Text.toPlain line))
    output.forM (fun line => IO.println (Text.toPlain line))
    pure exitCode.toUInt32

def runProgram (written : List String) : IO UInt32 := do
  let arguments := written.map Text.ofPlain
  let paths := match readArguments arguments with
    | .ok request => pathsOf request
    | .error _ => []
  let entries ← paths.mapM (fun path => do pure (path, ← readEntry path))
  match run arguments (fun path => (entries.lookup path).getD .absent) with
  | .ok outcome => finish outcome
  | .error e =>
    IO.eprintln ("Unexpected: " ++ Text.toPlain (e.message (fun v => v.shownAs "")))
    pure 1

end FlowTyping.CommandLine

def main (arguments : List String) : IO UInt32 := FlowTyping.CommandLine.runProgram arguments
