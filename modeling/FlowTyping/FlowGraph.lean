import FlowTyping.ConstraintSet
import FlowTyping.Reachability

/-!
The graph of a set of constraints. Its nodes are the operands of the constraints. Along
`<=` data flows, and every node keeps the shortest chains of constraints to the nodes it
flows into; along `<=` and `=>` dynamic values spread. Compatibility draws no arc. A
constraint with equal sides says nothing and draws none either.
-/

namespace FlowTyping

/-- The nodes of a set of constraints with what each of them leads to. -/
structure FlowGraph where
  /-- The constraints, in order. -/
  constraints : List Flow
  /-- The operands of the constraints, in order. -/
  nodes : List Operand
  /-- For every node, the nodes it flows into with shortest chains, by length. -/
  flows : List (Operand × List (Found Operand Flow))
  /-- For every node, the nodes that are dynamic when it is, in order. -/
  spreads : List (Operand × List Operand)

/-- A derived flow between two literals. -/
structure LiteralFlow where
  lower : Literal
  upper : Literal
  /-- A shortest chain of constraints that derives the flow. -/
  chain : List Flow

namespace FlowGraph

/-- The constraints of a list that are of a kind and not trivial. -/
def ofKind (kind : Kind) (constraints : List Flow) : List Flow :=
  constraints.filter (fun c => decide (c.kind = kind) && !c.isTrivial)

/-- The arcs along which data flows. -/
def flowArcs (constraints : List Flow) : List (Arc Operand Flow) :=
  (ofKind .flow constraints).map (fun c => ⟨c.lhs, c.rhs, c⟩)

/-- The arcs along which dynamic values spread. -/
def spreadArcs (constraints : List Flow) : List (Arc Operand Flow) :=
  (constraints.filter (fun c => decide (c.kind ≠ .compatible) && !c.isTrivial)).map
    (fun c => ⟨c.lhs, c.rhs, c⟩)

def operands (constraints : List Flow) : List Operand :=
  (SortedSet.ofList (constraints.flatMap (fun c => [c.lhs, c.rhs])) :
    SortedSet Operand compare).toList

def ofSet (cs : ConstraintSet) : FlowGraph :=
  let constraints := cs.toList
  let nodes := operands constraints
  let along := flowArcs constraints
  let spreading := spreadArcs constraints
  { constraints
    nodes
    flows := nodes.map (fun n => (n, Reachability.reach along n))
    spreads := nodes.map (fun n =>
      let targets := (Reachability.reach spreading n).map Found.node
      (n, nodes.filter (fun m => decide (m ∈ targets)))) }

def literals (g : FlowGraph) : List Operand := g.nodes.filter Operand.isLiteral

/-- The compatibilities that are not trivial. -/
def compatibilities (g : FlowGraph) : List Flow := ofKind .compatible g.constraints

/-- The dynamic implications that are not trivial. -/
def implications (g : FlowGraph) : List Flow := ofKind .implies g.constraints

/-- The nodes that a node flows into, with shortest chains, by length. -/
def successors (g : FlowGraph) (n : Operand) : List (Found Operand Flow) :=
  (g.flows.lookup n).getD []

def reaches (g : FlowGraph) (a b : Operand) : Bool :=
  (g.successors a).any (fun found => decide (found.node = b))

/-- Whether data flows between two nodes in either direction. -/
def related (g : FlowGraph) (a b : Operand) : Bool := g.reaches a b || g.reaches b a

/-- The shortest chain along which one node flows into another. -/
def chain? (g : FlowGraph) (a b : Operand) : Option (List Flow) :=
  ((g.successors a).find? (fun found => decide (found.node = b))).map Found.chain

/-- The nodes that flow into a node, in order. -/
def predecessors (g : FlowGraph) (n : Operand) : List Operand :=
  g.nodes.filter (fun a => g.reaches a n)

/-- The nodes that are dynamic when a node is, in order. -/
def spreadsTo (g : FlowGraph) (n : Operand) : List Operand := (g.spreads.lookup n).getD []

/-- The literals that flow into a node. -/
def lowerLiterals (g : FlowGraph) (n : Operand) : List Operand :=
  (g.predecessors n).filter Operand.isLiteral

/-- The literals that a node flows into, nearest first. -/
def upperLiterals (g : FlowGraph) (n : Operand) : List Operand :=
  ((g.successors n).map Found.node).filter Operand.isLiteral

/-- Every derived flow between different nodes: sources in order, targets by distance. -/
def derivedFlows (g : FlowGraph) : List Flow :=
  g.nodes.flatMap (fun a => (g.successors a).map (fun found => Constraint.make a .flow found.node))

/-- The derived flows from a node to literals, if the node is a literal itself. -/
def literalFlowsFrom (g : FlowGraph) (a : Operand) : List LiteralFlow :=
  match a.literal? with
  | none => []
  | some lower =>
    (g.successors a).filterMap (fun found =>
      found.node.literal?.map (fun upper => ⟨lower, upper, found.chain⟩))

/-- Every derived flow between different literals: sources in order, targets by distance. -/
def literalFlows (g : FlowGraph) : List LiteralFlow := g.literals.flatMap g.literalFlowsFrom

/-- Whether a level flows into a node, so that it is a level. -/
def hasStaticLower (g : FlowGraph) (n : Operand) : Bool :=
  n.isStatic || g.nodes.any (fun a => a.isStatic && g.reaches a n)

/-- Whether the dynamic marker flows into a node, so that it is dynamic. -/
def hasDynLower (g : FlowGraph) (n : Operand) : Bool :=
  n.isDyn || g.nodes.any (fun a => a.isDyn && g.reaches a n)

/-- Whether a node flows into a level, so that it is not dynamic. -/
def hasStaticUpper (g : FlowGraph) (n : Operand) : Bool :=
  n.isStatic || (g.successors n).any (fun found => found.node.isStatic)

/-- The nodes that are dynamic in every solution. -/
def forcedNodes (g : FlowGraph) : List Operand :=
  let seeds := g.nodes.filter g.hasDynLower
  g.nodes.filter (fun n => decide (n ∈ seeds) || seeds.any (fun s => decide (n ∈ g.spreadsTo s)))

/-- The nodes that are levels in every solution. -/
def staticNodes (g : FlowGraph) : List Operand := g.nodes.filter g.hasStaticLower

end FlowGraph

end FlowTyping
