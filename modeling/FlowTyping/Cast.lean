import FlowTyping.Constraint

namespace FlowTyping

/-- Between which kinds of checking a cast leads. -/
inductive CastDirection where
  | staticToStatic
  | staticToDynamic
  | dynamicToStatic
  | dynamicToDynamic
  deriving DecidableEq, Repr

def CastDirection.words : CastDirection → String
  | .staticToStatic => "static->static"
  | .staticToDynamic => "static->dynamic"
  | .dynamicToStatic => "dynamic->static"
  | .dynamicToDynamic => "dynamic->dynamic"

structure Cast where
  source : Literal
  dest : Literal
  deriving DecidableEq

namespace Cast

def direction (c : Cast) : CastDirection :=
  match c.source, c.dest with
  | .dyn, .dyn => .dynamicToDynamic
  | .dyn, .level _ => .dynamicToStatic
  | .level _, .dyn => .staticToDynamic
  | .level _, .level _ => .staticToStatic

/-- Whether a cast needs a check when the program runs. -/
def isChecked (c : Cast) : Bool := decide (c.direction = .dynamicToStatic)

/-- The flows that a cast of `operand` to `result` contributes. -/
def constraints (c : Cast) (operand result : Operand) : List Flow :=
  [Constraint.make operand .flow (.literal c.source),
    Constraint.make (.literal c.dest) .flow result]

/-- How a value cast is shown, with the operand that carries the value if it is known. -/
def shownValue (labels : Labels) (carrier : Option Operand) (c : Cast) : String :=
  let carried := match carrier with
    | some operand => "[" ++ operand.shown labels ++ "]"
    | none => ""
  "(" ++ c.dest.shown ++ " <= " ++ c.source.shown ++ ")" ++ carried

def shownContext (c : Cast) : String :=
  "cx(" ++ c.source.shown ++ " => " ++ c.dest.shown ++ ")"

end Cast

end FlowTyping
