import FlowTyping.Config
import FlowTyping.Signature.Registry
import FlowTyping.Signature.Stored
import FlowTyping.Solver
import FlowTyping.UnitFile

namespace FlowTyping

inductive Error where
  | lattice (error : LatticeError)
  | parse (error : ParseError)
  | assignment (error : AssignmentError)
  | symbol (error : SymbolError)
  | registry (error : RegistryError)
  | disagreement (error : Disagreement)
  | brokenLaw (law : LevelLattice.Violation Literal)
  | negativePosition (error : NegativePosition)
  | config (error : ConfigError)
  | unit (error : UnitError)
  /-- A file cannot be read as a document. -/
  | brokenFile
  /-- A directory stands where a file is needed. -/
  | directory (path : String)
  /-- A path is too long to be looked up. -/
  | pathTooLong (path : String)
  /-- A number is too long to be shown. -/
  | longNumber (refusal : Text.TooManyDigits)
  | fault (kind : Fault)
  deriving DecidableEq

namespace Error

def ofStored : StoredError → Error
  | .parse error => .parse error
  | .notText => .fault .noSuchPart
  | .tooDeep => .fault .tooDeep

def ofStoring : StoringError → Error
  | .fault kind => .fault kind
  | .longNumber refusal => .longNumber refusal

/-- What sets an error apart for the one who has to deal with it. -/
inductive Family where
  /-- The program found something wrong with what it was given. -/
  | engine
  /-- A value is of the right shape and yet makes no sense. -/
  | value
  /-- A file holds no document. -/
  | document
  /-- A file cannot be opened. -/
  | opening
  /-- A law that was to be checked does not hold. -/
  | law
  /-- An operation and a value do not fit. -/
  | fault (kind : Fault)
  deriving DecidableEq, Repr

def family : Error → Family
  | .lattice _ => .engine
  | .parse error => if error.isTooLong then .value else .engine
  | .assignment _ => .engine
  | .symbol _ => .engine
  | .registry _ => .engine
  | .disagreement _ => .engine
  | .brokenLaw _ => .law
  | .negativePosition _ => .value
  | .config (.coverParts _) => .value
  | .config (.longNumber _) => .value
  | .config (.fault kind) => .fault kind
  | .config _ => .engine
  | .unit (.notInteger _) => .value
  | .unit .notNumber => .value
  | .unit (.longNumber _) => .value
  | .unit (.parse error) => if error.isTooLong then .value else .engine
  | .unit (.fault kind) => .fault kind
  | .unit _ => .engine
  | .brokenFile => .document
  | .directory _ => .opening
  | .pathTooLong _ => .opening
  | .longNumber _ => .value
  | .fault kind => .fault kind

/-- The words for an error; a fault has none. -/
def message (labels : Labels) : Error → String
  | .lattice error => error.message
  | .parse error => error.message
  | .assignment error => error.message labels
  | .symbol error => error.message labels
  | .registry error => error.message
  | .disagreement error => error.message labels
  | .brokenLaw law => law.message (fun value =>
    match value with
    | .dyn => value.shown
    | .level level => Domain.reported level)
  | .negativePosition error => error.message
  | .config error => error.message
  | .unit error => error.message
  | .brokenFile => "<yaml>"
  | .directory path => "[Errno 21] Is a directory: " ++ Text.quoted path
  | .pathTooLong path => "[Errno 36] File name too long: " ++ Text.quoted path
  | .longNumber refusal => refusal.message
  | .fault _ => ""

end Error

end FlowTyping
