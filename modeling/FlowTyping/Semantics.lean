import FlowTyping.ConstraintSet
import FlowTyping.LevelLattice

/-!
What constraints mean. A variable stands for a value: public, dynamic, or a level. Each kind
of constraint is a relation between values, and a solution of a set gives every variable a
value of the lattice so that all constraints of the set hold.
-/

namespace FlowTyping

/-- What an operand can stand for. -/
inductive Value where
  /-- The implicit least value, which no literal writes. -/
  | pub
  | dyn
  | level (level : Level)
  deriving DecidableEq

namespace Value

instance : Inhabited Value := ⟨.pub⟩

def shown : Value → String
  | .pub => "pub"
  | .dyn => "?"
  | .level l => l.shown

def ofLiteral : Literal → Value
  | .dyn => .dyn
  | .level l => .level l

/-- The order of values: public is below everything, `?` otherwise related to itself only. -/
def le (K : LevelLattice Level) : Value → Value → Bool
  | .pub, _ => true
  | .dyn, .dyn => true
  | .level a, .level b => K.le a b
  | _, _ => false

/-- Whether two values can be used for each other. -/
def compatible : Value → Value → Bool
  | .pub, _ => true
  | _, .pub => true
  | .dyn, .dyn => true
  | .level _, .level _ => true
  | _, _ => false

/-- Whether a dynamic left value comes with a dynamic right one. -/
def implies : Value → Value → Bool
  | .dyn, .dyn => true
  | .dyn, _ => false
  | _, _ => true

/-- The values over a lattice: public, dynamic, then the levels. -/
def all (K : LevelLattice Level) : List Value := .pub :: .dyn :: K.elements.map Value.level

/-- Whether a value belongs to a lattice. -/
def Belongs (K : LevelLattice Level) : Value → Prop
  | .level l => l ∈ K.elements
  | _ => True

/-- The place of a literal among the values, the last one if it occurs repeatedly. -/
def index? (K : LevelLattice Level) (literal : Literal) : Option Nat :=
  let values := all K
  ((List.range values.length).filter
    (fun i => decide (values[i]? = some (ofLiteral literal)))).getLast?

end Value

/-- The relation between values that a kind of constraint asks for. -/
def Kind.holds (K : LevelLattice Level) : Kind → Value → Value → Bool
  | .flow => Value.le K
  | .compatible => Value.compatible
  | .implies => Value.implies

/-- A choice of values for the variables. -/
abbrev Valuation := TypeVar → Value

def Operand.value (σ : Valuation) : Operand → Value
  | .literal l => Value.ofLiteral l
  | .var v => σ v

/-- Whether a constraint holds under a valuation. -/
def Flow.holds (K : LevelLattice Level) (σ : Valuation) (c : Flow) : Bool :=
  c.kind.holds K (c.lhs.value σ) (c.rhs.value σ)

/-- A valuation by values of the lattice under which every constraint of a set holds. -/
structure Solution (K : LevelLattice Level) (cs : ConstraintSet) (σ : Valuation) : Prop where
  belongs : ∀ v, (σ v).Belongs K
  holds : ∀ c ∈ cs, Flow.holds K σ c = true

/-- Every solution of the set satisfies the constraint. -/
def Entails (K : LevelLattice Level) (cs : ConstraintSet) (c : Flow) : Prop :=
  ∀ σ, Solution K cs σ → Flow.holds K σ c = true

/-- Every literal of the set is a level of the lattice or the dynamic marker. -/
def ConstraintSet.Over (K : LevelLattice Level) (cs : ConstraintSet) : Prop :=
  ∀ l, .level l ∈ cs.literals → l ∈ K.elements

end FlowTyping
