import FlowTyping.Constraint.Split
import FlowTyping.Domain
import FlowTyping.ParseError
import FlowTyping.Text.Digit

/-!
Reading constraints of a unit. An operand is, in this order: the dynamic marker `?`, the
return variable `@return`, the context variable `@pc`, a parameter `@n`, a level of the
domain, or a name, which stands for a variable of the unit. What a reader has asked of the
namespace before it fails stays asked for, so every reader also returns the namespace.
-/

namespace FlowTyping

/-- The position written by a reference to a parameter. -/
def paramReference? : List Char → Option (Except Text.TooManyDigits Nat)
  | '@' :: digits => (Text.readNat? digits).map (Text.withinLimit digits.length)
  | _ => none

def isNameStart (c : Char) : Bool := c.isAlpha || c == '_'

def isNamePart (c : Char) : Bool := c.isAlphanum || c == '_' || c == '.' || c == '$'

def isName : List Char → Bool
  | [] => false
  | c :: rest => isNameStart c && rest.all isNamePart

namespace Namespace

def readOperand (domain : Domain) (text : String) (ns : Namespace) :
    Except ParseError Operand × Namespace :=
  let word := Text.strip text
  if word = "?" then (.ok (.literal .dyn), ns)
  else if word = "@return" then (.ok (.var ns.ret), ns)
  else if word = "@pc" then (.ok (.var ns.pc), ns)
  else
    match paramReference? word.toList with
    | some (.ok position) =>
      let (var, next) := ns.param position
      (.ok (.var var), next)
    | some (.error refusal) => (.error (.ofDigits refusal), ns)
    | none =>
      if word.toList.head? = some '@' then (.error ⟨.unknownReference, text⟩, ns)
      else
        match domain.parse word with
        | .ok level => (.ok (.literal (.level level)), ns)
        | .error _ =>
          if isName word.toList then
            let (var, next) := ns.named word
            (.ok (.var var), next)
          else (.error ⟨.notAnOperand, text⟩, ns)

/-- Reads a constraint, its left side first. -/
def readConstraint (domain : Domain) (text : String) (ns : Namespace) :
    Except ParseError Flow × Namespace :=
  match Constraint.split? text with
  | none => (.error ⟨.malformedConstraint, text⟩, ns)
  | some (left, kind, right) =>
    match ns.readOperand domain left with
    | (.error e, ns) => (.error e, ns)
    | (.ok lhs, ns) =>
      match ns.readOperand domain right with
      | (.error e, ns) => (.error e, ns)
      | (.ok rhs, ns) => (.ok (Constraint.make lhs kind rhs), ns)

/-- Reads the constraints on the lines that are not blank, up to the first error. -/
def readConstraints (domain : Domain) :
    List String → Namespace → Except ParseError (List Flow) × Namespace
  | [], ns => (.ok [], ns)
  | line :: rest, ns =>
    if Text.isBlankText line then ns.readConstraints domain rest
    else
      match ns.readConstraint domain line with
      | (.error e, ns) => (.error e, ns)
      | (.ok c, ns) =>
        match ns.readConstraints domain rest with
        | (.error e, ns) => (.error e, ns)
        | (.ok cs, ns) => (.ok (c :: cs), ns)

end Namespace

end FlowTyping
