import FlowTyping.Document
import FlowTyping.Domain
import FlowTyping.Fault
import FlowTyping.Text.Case

namespace FlowTyping

inductive DomainKind where
  | twoPoint
  | powerset
  | hasse
  deriving DecidableEq, Repr

namespace DomainKind

def word : DomainKind → String
  | .twoPoint => "lowhigh"
  | .powerset => "powerset"
  | .hasse => "finite"

def all : List DomainKind := [.twoPoint, .powerset, .hasse]

def ofWord? (word : String) : Option DomainKind :=
  all.find? (fun kind => decide (kind.word = word))

@[simp] theorem ofWord?_word (kind : DomainKind) : ofWord? kind.word = some kind := by
  cases kind <;> decide

end DomainKind

/-- How urgent a message must be to be logged. -/
inductive Threshold where
  | critical
  | fatal
  | error
  | warning
  | warn
  | info
  | debug
  | notset
  deriving DecidableEq, Repr

namespace Threshold

def word : Threshold → String
  | .critical => "CRITICAL"
  | .fatal => "FATAL"
  | .error => "ERROR"
  | .warning => "WARNING"
  | .warn => "WARN"
  | .info => "INFO"
  | .debug => "DEBUG"
  | .notset => "NOTSET"

def number : Threshold → Nat
  | .critical => 50
  | .fatal => 50
  | .error => 40
  | .warning => 30
  | .warn => 30
  | .info => 20
  | .debug => 10
  | .notset => 0

def all : List Threshold :=
  [.critical, .fatal, .error, .warning, .warn, .info, .debug, .notset]

def ofWord? (word : String) : Option Threshold :=
  all.find? (fun threshold => decide (threshold.word = word))

@[simp] theorem ofWord?_word (threshold : Threshold) : ofWord? threshold.word = some threshold := by
  cases threshold <;> decide

/-- Whether a message of a threshold's urgency passes another threshold. -/
def lets (threshold message : Threshold) : Bool := decide (threshold.number ≤ message.number)

end Threshold

structure Config where
  kind : DomainKind := .twoPoint
  principals : List String := []
  elements : List String := []
  covers : List (String × String) := []
  crossCheck : Bool := false
  threshold : Threshold := .warning
  deriving DecidableEq

inductive ConfigError where
  | notMapping (kindName : String)
  | unknownKind (word : String)
  | unknownThreshold (word : String)
  /-- A cover has another number of parts than two. -/
  | coverParts (count : Nat)
  /-- A number stands for a text, and is too long to be written. -/
  | longNumber (refusal : Text.TooManyDigits)
  /-- A value has not the shape that its place needs. -/
  | fault (fault : Fault)
  deriving DecidableEq

/-- The words for the error; a fault has none. -/
def ConfigError.message : ConfigError → String
  | .notMapping kindName => "Configuration must be a mapping, got " ++ kindName
  | .unknownKind word =>
    "Unknown domain kind " ++ Text.quoted word ++ "; expected one of (" ++
      ", ".intercalate (DomainKind.all.map (fun kind => Text.quoted kind.word)) ++ ")"
  | .unknownThreshold word => "Unknown logging level " ++ Text.quoted word
  | .coverParts count =>
    if count < 2 then "not enough values to unpack (expected 2, got " ++ toString count ++ ")"
    else "too many values to unpack (expected 2)"
  | .longNumber refusal => refusal.message
  | .fault _ => ""

namespace Config

/-- The entries of a section; a section that is not given is empty. -/
def entriesOf (entries : List (Document × Document)) (name : String) :
    Except ConfigError (List (Document × Document)) :=
  match Document.find? entries name with
  | none => .ok []
  | some value =>
    match value with
    | .mapping found => .ok found
    | other => if other.isGiven then .error (.fault .noSuchPart) else .ok []

/-- What a value under a name holds; without the name, nothing. -/
def partsOf (entries : List (Document × Document)) (name : String) :
    Except ConfigError (List Document) :=
  match Document.find? entries name with
  | none => .ok []
  | some value =>
    match value.parts? with
    | some parts => .ok parts
    | none => .error (.fault .wrongShape)

def textOf (value : Document) : Except ConfigError String := value.plain?.mapError .longNumber

def textsOf (entries : List (Document × Document)) (name : String) :
    Except ConfigError (List String) := do
  (← partsOf entries name).mapM textOf

/-- Reads a cover: two parts, the lower one first. -/
def readCover (cover : Document) : Except ConfigError (String × String) :=
  match cover.parts? with
  | none => .error (.fault .wrongShape)
  | some [lower, upper] => do
    let lower ← textOf lower
    let upper ← textOf upper
    pure (lower, upper)
  | some parts => .error (.coverParts parts.length)

/-- The plain text under a name, or a default. -/
def wordOf (entries : List (Document × Document)) (name default : String) :
    Except ConfigError String :=
  match Document.find? entries name with
  | some value => textOf value
  | none => .ok default

/-- Whether a switch is on; the first of its spellings that is written counts. -/
def switchOf (entries : List (Document × Document)) (spellings : List String) : Bool :=
  match spellings.findSome? (Document.find? entries) with
  | some value => value.isGiven
  | none => false

def readDomain (entries : List (Document × Document)) : Except ConfigError Config := do
  let word := Text.lower (← wordOf entries "kind" "lowhigh")
  match DomainKind.ofWord? word with
  | none => .error (.unknownKind word)
  | some kind =>
    let principals ← textsOf entries "principals"
    let elements ← textsOf entries "elements"
    let covers ← (← partsOf entries "covers").mapM readCover
    pure { kind, principals, elements, covers }

def readThreshold (entries : List (Document × Document)) : Except ConfigError Threshold := do
  let word := Text.upper (← wordOf entries "level" "WARNING")
  match Threshold.ofWord? word with
  | some threshold => .ok threshold
  | none => .error (.unknownThreshold word)

def ofDocument : Document → Except ConfigError Config
  | .mapping entries => do
    let configured ← readDomain (← entriesOf entries "domain")
    let solver ← entriesOf entries "solver"
    let threshold ← readThreshold (← entriesOf entries "logging")
    pure { configured with crossCheck := switchOf solver ["cross-check", "cross_check"], threshold }
  | other => .error (.notMapping other.kindName)

def domain (config : Config) : Except LatticeError Domain :=
  match config.kind with
  | .twoPoint => .ok .twoPoint
  | .powerset => (Powerset.ofPrincipals config.principals).map Domain.powerset
  | .hasse => (Hasse.ofCovers config.elements config.covers).map Domain.hasse

/-- The lines of a list under a name; an empty list has none. -/
def listLines (name : String) (items : List String) : List String :=
  if items.isEmpty then [] else ("  " ++ name ++ ":") :: items.map ("    - " ++ ·)

def writtenCover (cover : String × String) : String := "[" ++ cover.1 ++ ", " ++ cover.2 ++ "]"

def lines (config : Config) : List String :=
  ["# .gradflow.yml: gradual flow checker configuration", "", "domain:",
    "  kind: " ++ config.kind.word] ++
  listLines "principals" config.principals ++
  listLines "elements" config.elements ++
  listLines "covers" (config.covers.map writtenCover) ++
  ["", "solver:", "  cross-check: " ++ (if config.crossCheck then "true" else "false"), "",
    "logging:", "  level: " ++ config.threshold.word, ""]

def written (config : Config) : String := "\n".intercalate config.lines

end Config

end FlowTyping
