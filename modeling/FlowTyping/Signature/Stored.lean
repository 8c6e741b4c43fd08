import FlowTyping.Document.Json.Writer
import FlowTyping.Signature.Reader

namespace FlowTyping

inductive StoredError where
  | parse (error : ParseError)
  /-- A line or an effect is not a text. -/
  | notText
  /-- The text nests lists and objects too deeply. -/
  | tooDeep
  deriving DecidableEq

inductive StoringError where
  /-- The domain cannot write a literal. -/
  | fault (fault : Fault)
  /-- A position or a bare number has too many digits to be written. -/
  | longNumber (refusal : Text.TooManyDigits)
  deriving DecidableEq

namespace Signature

def storedLiteral (domain : Domain) : Literal → String
  | .dyn => "?"
  | .level l => domain.format l

def storedConstraint (domain : Domain) (c : SymbolConstraint) : String :=
  Constraint.shown (Symbol.written (storedLiteral domain)) c

def storedConstraints (domain : Domain) (s : Signature) : List String :=
  s.constraints.toList.map (storedConstraint domain)

def storedEffect (domain : Domain) : Literal → Document
  | .dyn => .text "?"
  | .level l => domain.formatItem l

def toDocument (domain : Domain) (s : Signature) : Document :=
  .mapping
    [(.text "constraints", .list ((s.storedConstraints domain).map Document.text)),
     (.text "effects", .list (s.effects.toList.map (storedEffect domain)))]

/-- The refusal to write a number, if its text is refused. -/
def longNumber? : Except Text.TooManyDigits String → Option StoringError
  | .ok _ => none
  | .error refusal => some (.longNumber refusal)

/-- Why a symbol cannot be written as part of a constraint. -/
def unwritable? (domain : Domain) : Symbol → Option StoringError
  | .literal .dyn => none
  | .literal literal =>
    match domain.unwritable? literal with
    | some fault => some (.fault fault)
    | none => longNumber? literal.shown?
  | .param position => longNumber? (Text.writeInt position)
  | .ret => none

/-- Why a signature cannot be stored. The constraints are written before the effects, the
left side of each before the right one. -/
def unstorable? (domain : Domain) (s : Signature) : Option StoringError :=
  let sides := s.constraints.toList.flatMap (fun c => [c.lhs, c.rhs])
  match sides.findSome? (unwritable? domain) with
  | some error => some error
  | none => (s.effects.toList.findSome? (fun effect =>
      if effect = .dyn then none else domain.unlistable? effect)).map StoringError.fault

/-- The stored form of a signature whose literals need not be levels of the domain. -/
def toDocument? (domain : Domain) (s : Signature) : Except StoringError Document :=
  match s.unstorable? domain with
  | some error => .error error
  | none => .ok (s.toDocument domain)

/-- Reads values that have to be texts, one after the other. -/
def readTexts {α : Type} (read : String → Except ParseError α) (skip : String → Bool) :
    List Document → Except StoredError (List α)
  | [] => .ok []
  | .text text :: rest =>
    if skip text then readTexts read skip rest
    else
      match read text with
      | .error e => .error (.parse e)
      | .ok first => (readTexts read skip rest).map (first :: ·)
  | _ :: _ => .error .notText

/-- Reads the stored form of a signature; what is missing counts as empty. -/
def ofDocument (domain : Domain) (document : Document) : Except StoredError Signature :=
  match document with
  | .mapping entries =>
    let constraints := (Document.find? entries "constraints").getD (.list [])
    let effects := (Document.find? entries "effects").getD (.list [])
    match constraints, effects with
    | .list lines, .list levels => do
      let read ← readTexts (SymbolConstraint.read domain) Text.isBlankText lines
      let levels ← readTexts (Effects.readLevel domain) (fun _ => false) levels
      pure ⟨SortedSet.ofList read, SortedSet.ofList levels⟩
    | _, _ => .error (.parse ⟨.signatureNotLists, document.quoted⟩)
  | _ => .error (.parse ⟨.signatureNotMapping, document.quoted⟩)

def toJson (domain : Domain) (style : Json.Style) (s : Signature) : String :=
  Json.write style (s.toDocument domain)

/-- The JSON text of a signature whose literals need not be levels of the domain. -/
def toJson? (domain : Domain) (style : Json.Style) (s : Signature) :
    Except StoringError String :=
  (s.toDocument? domain).map (Json.write style)

def ofJson (domain : Domain) (text : String) : Except StoredError Signature :=
  match Json.read text with
  | .ok document => ofDocument domain document
  | .error .tooDeep => .error .tooDeep
  | .error (.tooManyDigits refusal) => .error (.parse (.ofDigits refusal))
  | .error problem => .error (.parse ⟨.invalidJson problem, text⟩)

end Signature

end FlowTyping
