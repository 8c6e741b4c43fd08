import FlowTyping.ConstraintSet.Algebra
import FlowTyping.Signature.Symbol
import FlowTyping.Table

/-!
Signatures: the constraints of a unit restated over its boundary, with the levels at which
it has effects. A signature is made once, from the projection of the unit's constraints onto
its boundary, and instantiated at every call with the variables of the caller. Messages name
symbols and positions of any size, without regard to the limit on the digits of numbers.
-/

namespace FlowTyping

abbrev SymbolConstraint := Constraint Symbol

namespace SymbolConstraint

def operator (c : SymbolConstraint) : String := c.kind.operator

/-- Constraints by their left side, then by operator, then by their right side. -/
def order : SymbolConstraint → SymbolConstraint → Ordering :=
  compareLex (compareOn Constraint.lhs) (compareLex (compareOn operator) (compareOn Constraint.rhs))

instance : Std.TransCmp order := by
  unfold order
  infer_instance

theorem keys_injective :
    Function.Injective (fun c : SymbolConstraint => (c.lhs, operator c, c.rhs)) := by
  intro c d same
  obtain ⟨lefts, operators, rights⟩ : c.lhs = d.lhs ∧ operator c = operator d ∧ c.rhs = d.rhs := by
    simpa using same
  refine Constraint.eq_of_parts lefts ?_ rights
  revert operators
  unfold operator
  cases c.kind <;> cases d.kind <;> simp [Kind.operator]

instance : Std.LawfulEqCmp order :=
  ComparesBy.lawful (.lex (.on Constraint.lhs) (.lex (.on operator) (.on Constraint.rhs)))
    keys_injective

def shown (c : SymbolConstraint) : String := Constraint.shown Symbol.shown c

end SymbolConstraint

abbrev SymbolConstraints := SortedSet SymbolConstraint SymbolConstraint.order

namespace SymbolConstraints

def shown (cs : SymbolConstraints) : String :=
  "\x7b" ++ ", ".intercalate (cs.toList.map SymbolConstraint.shown) ++ "\x7d"

def symbols (cs : SymbolConstraints) : SortedSet Symbol compare :=
  SortedSet.ofList (cs.toList.flatMap (fun c => [c.lhs, c.rhs]))

end SymbolConstraints

/-- The levels at which a unit has observable effects. -/
abbrev Effects := SortedSet Literal compare

namespace Effects

def shown (effects : Effects) : String :=
  "\x7b" ++ ", ".intercalate (effects.toList.map Literal.shown) ++ "\x7d"

/-- The effects of several units together. -/
def unionAll (all : List Effects) : Effects := all.foldl SortedSet.union .empty

end Effects

/-- Why a symbol or variable cannot be replaced. -/
inductive SymbolError where
  /-- A call supplies no variable for a symbol. -/
  | noVariable (symbol : Symbol)
  /-- A call supplies no variable for a parameter. -/
  | noArgument (position : Nat)
  /-- A variable of the projection is no part of the boundary. -/
  | notAtBoundary (var : TypeVar) (params : List TypeVar)
  deriving DecidableEq

def SymbolError.message (labels : Labels) : SymbolError → String
  | .noVariable symbol => "No type variable supplied for symbol " ++ symbol.shown
  | .noArgument position => "No argument variable for parameter " ++ toString position
  | .notAtBoundary var params =>
    let names := (params.map labels).mergeSort (fun a b => decide (a ≤ b))
    "Type variable " ++ labels var ++ " not found in parameter map: " ++ Text.quotedList names

structure Signature where
  constraints : SymbolConstraints
  effects : Effects
  deriving DecidableEq

namespace Signature

instance : Inhabited Signature := ⟨⟨.empty, .empty⟩⟩

def shown (s : Signature) : String :=
  "where " ++ SymbolConstraints.shown s.constraints ++ " and " ++ Effects.shown s.effects

/-- The symbol that restates an operand, given the symbols of the boundary. -/
def symbolOf (params : Table TypeVar (Option Int)) (ret : Option TypeVar) :
    Operand → Except SymbolError Symbol
  | .literal value => .ok (.literal value)
  | .var v =>
    if ret = some v then .ok .ret
    else
      match (Table.find? params v).join with
      | some position => .ok (.param position)
      | none => .error (.notAtBoundary v (params.map Prod.fst))

/-- Restates a constraint over symbols, its left side first. -/
def symbolize (params : Table TypeVar (Option Int)) (ret : Option TypeVar) (c : Flow) :
    Except SymbolError SymbolConstraint := do
  let lhs ← symbolOf params ret c.lhs
  let rhs ← symbolOf params ret c.rhs
  pure (Constraint.make lhs c.kind rhs)

/-- The variables of a boundary: the parameters and the returned value. -/
def boundaryVars (params : Table TypeVar (Option Int)) (ret : Option TypeVar) : VarSet :=
  SortedSet.ofList (params.map Prod.fst ++ ret.toList)

/-- Restates a set of constraints over symbols. -/
def restate (params : Table TypeVar (Option Int)) (ret : Option TypeVar) (cs : ConstraintSet) :
    Except SymbolError SymbolConstraints := do
  let constraints ← cs.toList.mapM (symbolize params ret)
  pure (SortedSet.ofList constraints)

/-- What a set of constraints says about parameters and a return variable, over symbols. -/
def constraintsOf (K : LevelLattice Level) (cs : ConstraintSet)
    (params : Table TypeVar (Option Int)) (ret : Option TypeVar) :
    Except SymbolError SymbolConstraints :=
  restate params ret (cs.project K (boundaryVars params ret))

/-- The parameters of a unit, by their variables. -/
def unitParams (ns : Namespace) (count : Nat) : Table TypeVar (Option Int) :=
  (List.range count).map (fun i => (ns.paramVar i, some (Int.ofNat i)))

/-- The signature of a unit with a number of parameters, all of which are asked for. -/
def ofUnit (K : LevelLattice Level) (cs : ConstraintSet) (ns : Namespace) (count : Nat)
    (effects : Effects) : Except SymbolError Signature × Namespace :=
  ((constraintsOf K cs (unitParams ns count) (some ns.ret)).map
      (fun constraints => ⟨constraints, effects⟩),
    (ns.paramsBelow count).2)

/-- The variables that a call supplies for the symbols of its callee. -/
def callMapping (count : Nat) (args : Table Int TypeVar) (result : Option TypeVar) :
    Except SymbolError (Table Symbol TypeVar) := do
  let params ← (List.range count).mapM (fun position =>
    match Table.find? args (Int.ofNat position) with
    | some var => .ok (Symbol.param (Int.ofNat position), var)
    | none => .error (.noArgument position))
  pure (params ++ result.toList.map (fun var => (Symbol.ret, var)))

/-- The operand that a call supplies for a symbol. -/
def operandOf (mapping : Table Symbol TypeVar) : Symbol → Except SymbolError Operand
  | .literal value => .ok (.literal value)
  | symbol =>
    match Table.find? mapping symbol with
    | some var => .ok (.var var)
    | none => .error (.noVariable symbol)

/-- The constraints of a signature over the variables of a call. -/
def instantiate (s : Signature) (mapping : Table Symbol TypeVar) :
    Except SymbolError ConstraintSet := do
  let constraints ← s.constraints.toList.mapM (fun c => do
    let lhs ← operandOf mapping c.lhs
    let rhs ← operandOf mapping c.rhs
    pure (Constraint.make lhs c.kind rhs))
  pure (ConstraintSet.ofList constraints)

end Signature

end FlowTyping
