import FlowTyping.Constraint.Reader
import FlowTyping.Signature

namespace FlowTyping

def Symbol.read (domain : Domain) (text : String) : Except ParseError Symbol :=
  let word := Text.strip text
  if word = "@return" then .ok .ret
  else
    match paramReference? word.toList with
    | some (.ok position) => .ok (.param (Int.ofNat position))
    | some (.error refusal) => .error (.ofDigits refusal)
    | none =>
      if word = "?" then .ok (.literal .dyn)
      else
        match domain.parse word with
        | .ok level => .ok (.literal (.level level))
        | .error cause => .error ⟨.unknownSymbol cause, text⟩

def SymbolConstraint.read (domain : Domain) (text : String) : Except ParseError SymbolConstraint :=
  match Constraint.split? text with
  | none => .error ⟨.malformedConstraint, text⟩
  | some (left, kind, right) => do
    let lhs ← Symbol.read domain left
    let rhs ← Symbol.read domain right
    pure (Constraint.make lhs kind rhs)

def Effects.readLevel (domain : Domain) (text : String) : Except ParseError Literal :=
  if Text.strip text = "?" then .ok .dyn
  else
    match domain.parse text with
    | .ok level => .ok (.level level)
    | .error cause => .error ⟨.unknownEffect cause, text⟩

def Effects.read (domain : Domain) (texts : List String) : Except ParseError Effects := do
  let levels ← texts.mapM (Effects.readLevel domain)
  pure (SortedSet.ofList levels)

/-- Reads a signature from the lines of its constraints that are not blank, and the texts of
its effects. -/
def Signature.read (domain : Domain) (lines effects : List String) :
    Except ParseError Signature := do
  let constraints ← (lines.filter (fun line => !Text.isBlankText line)).mapM
    (SymbolConstraint.read domain)
  let effects ← Effects.read domain effects
  pure ⟨SortedSet.ofList constraints, effects⟩

end FlowTyping
