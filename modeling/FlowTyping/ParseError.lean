import FlowTyping.Document.Json.Reader
import FlowTyping.Domain.Error

namespace FlowTyping

inductive ParseCause where
  | malformedConstraint
  | unknownReference
  | notAnOperand
  | unknownSymbol (cause : LatticeError)
  | unknownEffect (cause : LatticeError)
  | signatureNotMapping
  | signatureNotLists
  | invalidJson (problem : Json.Problem)
  /-- A number has more digits than are read. -/
  | tooManyDigits (refusal : Text.TooManyDigits)
  deriving DecidableEq, Repr

def ParseCause.message : ParseCause → String
  | .malformedConstraint => "Malformed constraint"
  | .unknownReference => "Unknown reference"
  | .notAnOperand => "Not a level or variable name"
  | .unknownSymbol cause => "Unknown symbol (" ++ cause.message ++ ")"
  | .unknownEffect cause => "Unknown effect level (" ++ cause.message ++ ")"
  | .signatureNotMapping => "Signature must be a mapping"
  | .signatureNotLists => "Signature constraints and effects must be lists"
  | .invalidJson problem => "Invalid signature JSON (" ++ problem.message ++ ")"
  | .tooManyDigits refusal => refusal.message

/-- A text that cannot be read, with the reason. -/
structure ParseError where
  cause : ParseCause
  text : String
  deriving DecidableEq, Repr

/-- A number with too many digits, of which no text is quoted. -/
def ParseError.ofDigits (refusal : Text.TooManyDigits) : ParseError :=
  ⟨.tooManyDigits refusal, ""⟩

/-- Whether a text has the right form, and only a number in it is too long. -/
def ParseError.isTooLong (e : ParseError) : Bool :=
  match e.cause with
  | .tooManyDigits _ => true
  | _ => false

/-- The words for the error; an empty text is not quoted. -/
def ParseError.message (e : ParseError) : String :=
  if e.text.isEmpty then e.cause.message else e.cause.message ++ ": " ++ Text.quoted e.text

end FlowTyping
