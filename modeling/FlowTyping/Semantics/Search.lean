import FlowTyping.Semantics

/-!
An exact search for solutions, independent of the graph. Every variable starts with all
values of the lattice; values without a partner in some constraint are struck out; then the
variables are fixed one after the other, striking out after every choice.
-/

namespace FlowTyping.Search

/-- The values that each variable may still take. -/
abbrev Options := List (TypeVar × List Value)

def valuesOf (options : Options) : Operand → List Value
  | .literal l => [Value.ofLiteral l]
  | .var v => (options.lookup v).getD []

/-- Keeps of a variable's values those that pass a test. -/
def restrict (options : Options) (operand : Operand) (keep : Value → Bool) : Options :=
  match operand with
  | .literal _ => options
  | .var v =>
    options.map (fun entry => if entry.1 = v then (entry.1, entry.2.filter keep) else entry)

/-- Strikes out the values of both sides that have no partner in a constraint. -/
def revise (K : LevelLattice Level) (options : Options) (c : Flow) : Options :=
  let rights := valuesOf options c.rhs
  let narrowed := restrict options c.lhs (fun a => rights.any (c.kind.holds K a))
  let lefts := valuesOf narrowed c.lhs
  restrict narrowed c.rhs (fun b => lefts.any (fun a => c.kind.holds K a b))

def openCount : Options → Nat
  | [] => 0
  | entry :: rest => entry.2.length + openCount rest

/-- Revises all constraints, again and again for a number of rounds or until nothing is
struck out any more. -/
def propagate (K : LevelLattice Level) (constraints : List Flow) : Nat → Options → Options
  | 0, options => options
  | rounds + 1, options =>
    let next := constraints.foldl (revise K) options
    if openCount next < openCount options then propagate K constraints rounds next else next

/-- Whether some values still open satisfy a constraint. -/
def isOpen (K : LevelLattice Level) (options : Options) (c : Flow) : Bool :=
  (valuesOf options c.lhs).any (fun a => (valuesOf options c.rhs).any (c.kind.holds K a))

/-- Fixes the variables of a list one after the other and looks for values that satisfy all
constraints. When each variable has one value left, a constraint that is open holds. -/
def solveFrom (K : LevelLattice Level) (constraints : List Flow) :
    List TypeVar → Options → Option Options
  | [], options => if constraints.all (isOpen K options) then some options else none
  | v :: rest, options =>
    let narrowed := propagate K constraints (openCount options) options
    if constraints.all (isOpen K narrowed) then
      (valuesOf narrowed (.var v)).findSome? (fun value =>
        solveFrom K constraints rest
          (restrict narrowed (.var v) (fun other => decide (other = value))))
    else none

/-- Values for the variables of a set that satisfy all its constraints. -/
def model? (K : LevelLattice Level) (cs : ConstraintSet) : Option (List (TypeVar × Value)) :=
  let vars := cs.vars.toList
  let options := vars.map (fun v => (v, Value.all K))
  (solveFrom K cs.toList vars options).map
    (fun found => found.filterMap (fun entry => entry.2.head?.map (fun value => (entry.1, value))))

def isSat (K : LevelLattice Level) (cs : ConstraintSet) : Bool := (model? K cs).isSome

end FlowTyping.Search
