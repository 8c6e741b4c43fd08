import FlowTyping.Constraint.Reader
import FlowTyping.Diagnosis
import FlowTyping.Document
import FlowTyping.Signature.Reader
import FlowTyping.Text.Integer

namespace FlowTyping

inductive UnitError where
  | notMapping (path : String)
  | constraintsNotList (path : String)
  | notVariable (written : String)
  /-- What is quoted writes no whole number. -/
  | notInteger (quotation : String)
  /-- A value that is shown as no number stands where a number is needed. -/
  | notNumber
  | parse (error : ParseError)
  /-- A number stands for a text, and is too long to be written. -/
  | longNumber (refusal : Text.TooManyDigits)
  /-- A value has not the shape that its place needs. -/
  | fault (fault : Fault)
  deriving DecidableEq

/-- The longest quotation of a text that should have been a number. -/
def quotationLimit : Nat := 200

/-- The words for the error; a fault has none. -/
def UnitError.message : UnitError → String
  | .notMapping path => path ++ ": unit file must be a mapping"
  | .constraintsNotList path => path ++ ": 'constraints' must be a list"
  | .notVariable written => "fixed entry " ++ written ++ " is not a variable"
  | .notInteger quotation =>
    "invalid literal for int() with base 10: " ++
      String.ofList (quotation.toList.take quotationLimit)
  | .notNumber => "cannot convert float NaN to integer"
  | .parse error => error.message
  | .longNumber refusal => refusal.message
  | .fault _ => ""

/-- The entries of a unit file, whose constraints are a list. -/
structure UnitFile where
  entries : List (Document × Document)
  constraints : List Document

/-- A unit: what its file says, over the variables of its namespace. -/
structure AnalysedUnit where
  constraints : ConstraintSet
  tags : TagMap
  fixed : List TypeVar
  space : Namespace

namespace UnitFile

/-- Reads the document of a unit file; a document that is not given counts as empty. -/
def ofDocument (path : String) (document : Document) : Except UnitError UnitFile :=
  let given := if document.isGiven then document else .mapping []
  match given with
  | .mapping entries =>
    match (Document.find? entries "constraints").getD (.list []) with
    | .list constraints => .ok ⟨entries, constraints⟩
    | _ => .error (.constraintsNotList path)
  | _ => .error (.notMapping path)

/-- What a given value under a name holds; nothing if it is not given. -/
def partsOf (file : UnitFile) (name : String) : Except UnitError (List Document) :=
  let value := (Document.find? file.entries name).getD .null
  if value.isGiven then
    match value.parts? with
    | some parts => .ok parts
    | none => .error (.fault .wrongShape)
  else .ok []

/-- The tags of the file, each with the text of its constraint. -/
def tagEntries (file : UnitFile) : Except UnitError (List (Document × Document)) :=
  let value := (Document.find? file.entries "tags").getD .null
  match value with
  | .mapping entries => .ok entries
  | other => if other.isGiven then .error (.fault .noSuchPart) else .ok []

def textOf (value : Document) : Except UnitError String := value.plain?.mapError .longNumber

/-- Reads the constraints one after the other, each once it is written. -/
def readLines (file : UnitFile) (domain : Domain) (space : Namespace) :
    Except UnitError (List Flow × Namespace) :=
  match space.readConstraints domain (Document.texts file.constraints) with
  | (.error e, _) => .error (.parse e)
  | (.ok constraints, next) =>
    if file.constraints.any Document.isLong then .error (.longNumber ⟨none⟩)
    else .ok (constraints, next)

def readTags (domain : Domain) :
    List (Document × Document) → TagMap → Namespace → Except UnitError (TagMap × Namespace)
  | [], tags, space => .ok (tags, space)
  | (text, tag) :: rest, tags, space => do
    match space.readConstraint domain (← textOf text) with
    | (.error e, _) => .error (.parse e)
    | (.ok c, next) => readTags domain rest (tags.add c (.plain tag)) next

/-- Reads the variables to be left unassigned. -/
def readFixed (domain : Domain) :
    List Document → Namespace → Except UnitError (List TypeVar × Namespace)
  | [], space => .ok ([], space)
  | name :: rest, space => do
    match space.readOperand domain (← textOf name) with
    | (.error e, _) => .error (.parse e)
    | (.ok (.literal _), _) => .error (.notVariable name.quoted)
    | (.ok (.var v), next) =>
      let (fixed, last) ← readFixed domain rest next
      pure (v :: fixed, last)

/-- Reads the unit over a domain: its constraints, then its tags, then its fixed variables. -/
def read (file : UnitFile) (domain : Domain) (space : Namespace) :
    Except UnitError AnalysedUnit := do
  let (constraints, space) ← file.readLines domain space
  let (tags, space) ← readTags domain (← file.tagEntries) .empty space
  let (fixed, space) ← readFixed domain (← file.partsOf "fixed") space
  pure ⟨.ofList constraints, tags, fixed, space⟩

/-- Reads the effects of the unit, each level once it is written. -/
def readEffects (file : UnitFile) (domain : Domain) : Except UnitError Effects := do
  let levels ← file.partsOf "effects"
  match Effects.read domain (Document.texts levels) with
  | .ok effects => if levels.any Document.isLong then .error (.longNumber ⟨none⟩) else .ok effects
  | .error e => .error (.parse e)

/-- The whole number that a text writes; for the error, the text is at hand as it is quoted. -/
def readWhole (text quotation : String) : Except UnitError Int :=
  match Text.readInt text with
  | .ok n => .ok n
  | .error .malformed => .error (.notInteger quotation)
  | .error (.tooLong refusal) => .error (.parse (.ofDigits refusal))

/-- Bytes as a text in which those outside ASCII stand for nothing that a number is made of. -/
def asciiText (bytes : List UInt8) : String :=
  String.ofList (bytes.map (fun byte => if byte < 0x80 then Char.ofNat byte.toNat else '?'))

/-- Reads a whole number. A fraction is cut off; a number beyond all bounds has no whole one. -/
def readCount : Document → Except UnitError Int
  | .int n => .ok n
  | .bool value => .ok (if value then 1 else 0)
  | .decimal shown =>
    match Json.wholeOf? shown with
    | some n => .ok n
    | none => .error (if shown = "nan" then .notNumber else .fault .wrongShape)
  | .text text => readWhole text (Text.quoted text)
  | .bytes bytes => readWhole (asciiText bytes) (Text.quotedBytes (bytes.take quotationLimit))
  | _ => .error (.fault .wrongShape)

/-- The number of parameters of the unit, none by default; below none counts as none. -/
def paramCount (file : UnitFile) : Except UnitError Nat :=
  (readCount ((Document.find? file.entries "params").getD (.int 0))).map Int.toNat

end UnitFile

end FlowTyping
