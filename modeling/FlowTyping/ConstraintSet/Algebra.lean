import FlowTyping.Closure

namespace FlowTyping.ConstraintSet

def isSat (K : LevelLattice Level) (cs : ConstraintSet) : Bool := (Closure.ofSet K cs).isSat

/-- Whether every solution of the set satisfies a constraint. -/
def entails (K : LevelLattice Level) (cs : ConstraintSet) (c : Flow) : Bool :=
  (Closure.ofSet K cs).entails c

/-- Every derived flow between different operands, with the other constraints that are not
trivial. -/
def close (cs : ConstraintSet) : ConstraintSet :=
  let graph := FlowGraph.ofSet cs
  ofList (graph.derivedFlows ++
    cs.toList.filter (fun c => decide (c.kind ≠ .flow) && !c.isTrivial))

/-- Drops each of some constraints in turn when the others still kept entail it. -/
def dropDerivable (K : LevelLattice Level) : List Flow → ConstraintSet → ConstraintSet
  | [], kept => kept
  | c :: rest, kept =>
    let others := kept.erase c
    dropDerivable K rest (if others.entails K c then others else kept)

/-- Drops, weakest kind first, every constraint that the ones still kept entail. -/
def minimize (K : LevelLattice Level) (cs : ConstraintSet) : ConstraintSet :=
  let kept := cs.filter (fun c => !c.isTrivial)
  dropDerivable K kept.toList kept

/-- All constraints between two different operands of a list, not both literals. -/
def candidates (operands : List Operand) : List Flow :=
  operands.flatMap (fun a => operands.flatMap (fun b =>
    if a = b ∨ (a.isLiteral ∧ b.isLiteral) then []
    else Kind.all.map (fun kind => Constraint.make a kind b)))

/-- Whether the flow `d` bounds the same variable as the flow `c` by a literal at least as
tight. -/
def tighter (K : LevelLattice Level) (c d : Flow) : Bool :=
  decide (d.kind = .flow) && decide (d ≠ c) &&
    match c.lhs, c.rhs, d.lhs, d.rhs with
    | .var x, .literal upper, .var y, .literal bound => decide (y = x) && bound.le K upper
    | .literal lower, .var x, .literal bound, .var y => decide (y = x) && lower.le K bound
    | _, _, _, _ => false

/-- The set without the flows for which it has a tighter bound. -/
def tightest (K : LevelLattice Level) (cs : ConstraintSet) : ConstraintSet :=
  let all := cs.toList
  cs.filter (fun c => decide (c.kind ≠ .flow) || !all.any (tighter K c))

/-- The set without loose bounds, without what follows from the flows left, and minimized. -/
def condense (K : LevelLattice Level) (cs : ConstraintSet) : ConstraintSet :=
  let tight := cs.tightest K
  let base := Closure.ofSet K (tight.filter (fun c => decide (c.kind = .flow)))
  (tight.filter (fun c => decide (c.kind = .flow) || !base.entails c)).minimize K

/-- The operands that a projection onto some variables talks about: those of them that the
set mentions, the levels and the dynamic marker. -/
def projectionOperands (K : LevelLattice Level) (cs : ConstraintSet) (onto : VarSet) :
    List Operand :=
  (cs.vars.inter onto).toList.map Operand.var ++
    K.elements.map (fun l => Operand.literal (.level l)) ++ [.literal .dyn]

/-- The set of a contradiction over a lattice. -/
def contradiction (K : LevelLattice Level) : ConstraintSet :=
  ofList [Constraint.make (.literal .dyn) .compatible (.literal (.level K.bottom))]

/-- What a set says about some variables alone: the entailed constraints among them and the
literals, condensed. Sets with the same solutions have the same projection; a set without
solutions projects to a contradiction. -/
def project (K : LevelLattice Level) (cs : ConstraintSet) (onto : VarSet) : ConstraintSet :=
  let closure := Closure.ofSet K cs
  if closure.isSat then
    let asked := candidates (cs.projectionOperands K onto)
    (ofList (asked.filter closure.entails)).condense K
  else contradiction K

/-- Whether every solution of `a` is one of `b`. -/
def implies (K : LevelLattice Level) (a b : ConstraintSet) : Bool :=
  let closure := Closure.ofSet K a
  !closure.isSat || (b.minimize K).toList.all closure.entails

/-- Whether two sets have the same solutions. -/
def equivalent (K : LevelLattice Level) (a b : ConstraintSet) : Bool :=
  a.implies K b && b.implies K a

/-- Whether `a` says at least as much as `b` about their common variables. -/
def subsumes (K : LevelLattice Level) (a b : ConstraintSet) : Bool :=
  let common := a.vars.inter b.vars
  (a.project K common).implies K (b.project K common)

/-- Whether `a` says exactly what `b` says about the variables of `a`. -/
def minimallySubsumes (K : LevelLattice Level) (a b : ConstraintSet) : Bool :=
  a.subsumes K b && (b.project K a.vars).implies K a

/-- Whether the body `super` of a unit, seen from the variables of the declaration `sub` and
the boundary of the unit, says exactly what the declaration says. -/
def refines (K : LevelLattice Level) (boundary : VarSet) (super sub : ConstraintSet) : Bool :=
  let projected := super.project K (sub.vars.union boundary)
  projected.implies K sub && sub.implies K projected

end FlowTyping.ConstraintSet
