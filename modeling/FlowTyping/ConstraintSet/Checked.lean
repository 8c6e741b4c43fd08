import FlowTyping.Assignment
import FlowTyping.ConstraintSet.Algebra
import FlowTyping.Domain
import FlowTyping.Semantics

/-!
Questions about sets that may mention values other than the levels of a domain. Constraints
read over a domain mention its levels only; a set put together otherwise need not. Each
question is answered as the algebra of sets answers it, step by step, until an operation of
the domain refuses a value that it is handed; what is never compared or joined is never
refused.
-/

namespace FlowTyping.Checked

/-- The members of a list that pass a test, unless the test is refused on one of them. -/
def select {α : Type} (test : α → Except Fault Bool) : List α → Except Fault (List α)
  | [] => .ok []
  | a :: rest => do
    let keep ← test a
    let kept ← select test rest
    pure (if keep then a :: kept else kept)

/-- Whether all members of a list pass a test; the first that does not ends the search. -/
def all {α : Type} (test : α → Except Fault Bool) : List α → Except Fault Bool
  | [] => .ok true
  | a :: rest => do if ← test a then all test rest else pure false

/-- Whether both answers are yes; the second is not asked for after a no. -/
def both (first second : Except Fault Bool) : Except Fault Bool := do
  if ← first then second else pure false

/-- The closure of a set, which compares all literals between which it derives a flow. -/
def closure (domain : Domain) (cs : ConstraintSet) : Except Fault Closure := do
  let graph := FlowGraph.ofSet cs
  let forbidden ← select (fun f => do return !(← domain.typeLe? f.lower f.upper))
    graph.literalFlows
  pure (Closure.ofGraph domain.lattice graph forbidden)

/-- Whether every solution satisfies `a <= b`, for a satisfiable set and different sides. -/
def entailsFlow (domain : Domain) (c : Closure) (a b : Operand) : Except Fault Bool :=
  match a, b with
  | .literal lower, .literal upper => domain.typeLe? lower upper
  | _, _ =>
    if c.graph.reaches a b then .ok true
    else if c.breaksByKind a b then .ok false
    else if c.admits [] [a, b] [] then do
      let highest ← domain.meetLevels? (c.upperLevels a)
      let lowest ← domain.joinLevels? (c.lowerLevels b)
      domain.le? (.level highest) (.level lowest)
    else .ok true

/-- Whether every solution behind a closure satisfies a constraint. -/
def entailedBy (domain : Domain) (c : Closure) (k : Flow) : Except Fault Bool :=
  if k.isTrivial || !c.isSat then .ok true
  else
    match k.kind with
    | .flow => entailsFlow domain c k.lhs k.rhs
    | .compatible => .ok (c.entailsCompatible k)
    | .implies => .ok (c.entailsImplies k.lhs k.rhs)

/-- Whether every solution of a set satisfies a constraint. A trivial one is not looked into. -/
def entails (domain : Domain) (cs : ConstraintSet) (k : Flow) : Except Fault Bool := do
  if k.isTrivial then pure true else entailedBy domain (← closure domain cs) k

def dropDerivable (domain : Domain) : List Flow → ConstraintSet → Except Fault ConstraintSet
  | [], kept => .ok kept
  | c :: rest, kept => do
    let others := kept.erase c
    let derivable ← entails domain others c
    dropDerivable domain rest (if derivable then others else kept)

def minimize (domain : Domain) (cs : ConstraintSet) : Except Fault ConstraintSet :=
  let kept := cs.filter (fun c => !c.isTrivial)
  dropDerivable domain kept.toList kept

def project (domain : Domain) (cs : ConstraintSet) (onto : VarSet) :
    Except Fault ConstraintSet := do
  let c ← closure domain cs
  if c.isSat then
    let _ ← domain.elements
    let asked := ConstraintSet.candidates (cs.projectionOperands domain.lattice onto)
    let found ← select (entailedBy domain c) asked
    pure ((ConstraintSet.ofList found).condense domain.lattice)
  else pure (ConstraintSet.contradiction domain.lattice)

def implies (domain : Domain) (a b : ConstraintSet) : Except Fault Bool := do
  let c ← closure domain a
  if c.isSat then all (entailedBy domain c) (← minimize domain b).toList else pure true

def equivalent (domain : Domain) (a b : ConstraintSet) : Except Fault Bool :=
  both (implies domain a b) (implies domain b a)

def subsumes (domain : Domain) (a b : ConstraintSet) : Except Fault Bool := do
  let common := a.vars.inter b.vars
  let left ← project domain a common
  let right ← project domain b common
  implies domain left right

def minimallySubsumes (domain : Domain) (a b : ConstraintSet) : Except Fault Bool :=
  both (subsumes domain a b) (do implies domain (← project domain b a.vars) a)

/-- Whether a body says about the variables of a declaration and the boundary of its unit
exactly what the declaration says. -/
def refines (domain : Domain) (boundary : VarSet) (body declared : ConstraintSet) :
    Except Fault Bool := do
  let projected ← project domain body (declared.vars.union boundary)
  both (implies domain projected declared) (implies domain declared projected)

/-- The join of the literals that flow into a node; none if there are none or one of them
is the dynamic marker. -/
def leastLevel (domain : Domain) (g : FlowGraph) (n : Operand) : Except Fault (Option Level) :=
  let lower := g.lowerLiterals n
  if lower.isEmpty || lower.any Operand.isDyn then .ok none
  else (domain.joinLevels? (lower.filterMap Operand.level?)).map some

/-- The least levels of some variables in a graph. -/
def leastLevels (domain : Domain) (g : FlowGraph) :
    List TypeVar → Except Fault (List (TypeVar × Level))
  | [] => .ok []
  | v :: rest => do
    let level ← leastLevel domain g (.var v)
    let others ← leastLevels domain g rest
    pure ((v, level.getD domain.lattice.bottom) :: others)

/-- The least level of every variable outside `fixed`. None if the set has no solution. -/
def leastAssignment (domain : Domain) (cs : ConstraintSet) (fixed : List TypeVar) :
    Except Fault (Option Assignment) := do
  let c ← closure domain cs
  if c.isSat then
    let free := cs.vars.toList.filter (fun v => decide (v ∉ fixed))
    let bindings ← leastLevels domain c.graph free
    pure (some ⟨bindings⟩)
  else pure none

/-- Refuses a set with a literal that is not among the values of the domain. -/
def values (domain : Domain) (cs : ConstraintSet) : Except Fault Unit := do
  let _ ← domain.elements
  if cs.literals.any (fun l => (Value.index? domain.lattice l).isNone) then .error .noEntry
  else pure ()

end FlowTyping.Checked
