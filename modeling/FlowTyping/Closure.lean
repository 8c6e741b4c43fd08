import FlowTyping.FlowGraph
import FlowTyping.LevelLattice

/-!
The closure of a set of constraints over a lattice: its graph together with what the lattice
says about it. Values range over the levels, `?` and an implicit least value, public:

* `a <= b` holds if `a` is public, or both are levels in order, or both are `?`;
* `a ~ b` holds if either is public, or both are levels, or both are `?`;
* `a => b` holds if `a` is not `?` or `b` is.

The least candidate makes forced nodes dynamic, nodes with a level below them levels, and
all other nodes public; a set is satisfiable exactly when that candidate breaks nothing.
-/

namespace FlowTyping

inductive UnsatReason where
  | flow (lower upper : Literal)
  | forced (node : Operand)
  | clash (compatibility : Flow)
  deriving DecidableEq

def UnsatReason.message (labels : Labels) : UnsatReason → String
  | .flow lower upper => lower.shown ++ " flows into " ++ upper.shown
  | .forced node => node.shown labels ++ " is forced dynamic but bounded by a static level"
  | .clash c => c.shown labels ++ " relates a dynamic and a static level"

/-- A set of constraints with its graph and what follows from it over a lattice. -/
structure Closure where
  lattice : LevelLattice Level
  graph : FlowGraph
  /-- The nodes that are dynamic in every solution. -/
  forced : List Operand
  /-- The nodes that are levels in every solution. -/
  static : List Operand
  /-- The derived flows that the order forbids: sources in order, targets by distance. -/
  forbidden : List LiteralFlow
  /-- Why there is no solution, if there is none. -/
  reason? : Option UnsatReason

namespace Closure

def forbiddenFlows (K : LevelLattice Level) (g : FlowGraph) : List LiteralFlow :=
  g.literalFlows.filter (fun f => !f.lower.le K f.upper)

/-- Whether a compatibility joins a forced node with one that is a level. -/
def clashes (g : FlowGraph) (forced : List Operand) (c : Flow) : Bool :=
  let isForced (n : Operand) : Bool := decide (n ∈ forced) || n.isDyn
  (isForced c.lhs && g.hasStaticLower c.rhs) || (isForced c.rhs && g.hasStaticLower c.lhs)

/-- The first reason why a graph has no solution: a forbidden flow, else a forced node next
to a level, else a clash. -/
def findReason? (g : FlowGraph) (forced : List Operand) (forbidden : List LiteralFlow) :
    Option UnsatReason :=
  match forbidden with
  | first :: _ => some (.flow first.lower first.upper)
  | [] =>
    match forced.find? (fun n => g.hasStaticLower n || g.hasStaticUpper n) with
    | some n => some (.forced n)
    | none => (g.compatibilities.find? (clashes g forced)).map UnsatReason.clash

/-- The closure with a graph and given forbidden flows. -/
def ofGraph (K : LevelLattice Level) (graph : FlowGraph) (forbidden : List LiteralFlow) :
    Closure :=
  let forced := graph.forcedNodes
  { lattice := K
    graph
    forced
    static := graph.staticNodes
    forbidden
    reason? := findReason? graph forced forbidden }

def ofSet (K : LevelLattice Level) (cs : ConstraintSet) : Closure :=
  let graph := FlowGraph.ofSet cs
  ofGraph K graph (forbiddenFlows K graph)

@[simp] theorem ofSet_graph (K : LevelLattice Level) (cs : ConstraintSet) :
    (ofSet K cs).graph = FlowGraph.ofSet cs := rfl

@[simp] theorem ofSet_lattice (K : LevelLattice Level) (cs : ConstraintSet) :
    (ofSet K cs).lattice = K := rfl

def isSat (c : Closure) : Bool := c.reason?.isNone

/-- Whether a node is dynamic in every solution. -/
def isForced (c : Closure) (n : Operand) : Bool := decide (n ∈ c.forced) || n.isDyn

/-- Whether some solution makes all of `dyn` dynamic, all of `static` levels and all of
`pub` public. The least candidate is tested again after these choices: dynamic nodes grow
along `<=` and `=>`, levels along `<=`, everything else stays public. -/
def admits (c : Closure) (dyn static pub : List Operand) : Bool :=
  let dynNodes := c.forced ++ dyn ++ dyn.flatMap c.graph.spreadsTo
  let staticNodes :=
    c.static ++ static ++ static.flatMap (fun n => (c.graph.successors n).map Found.node)
  let isDyn (n : Operand) : Bool := n.isDyn || decide (n ∈ dynNodes)
  let isStatic (n : Operand) : Bool := n.isStatic || decide (n ∈ staticNodes)
  c.isSat && !dynNodes.any isStatic && !staticNodes.any isDyn &&
    !pub.any (fun n => isDyn n || isStatic n) &&
    !c.graph.compatibilities.any
      (fun k => (isDyn k.lhs && isStatic k.rhs) || (isStatic k.lhs && isDyn k.rhs))

/-- The levels that a node flows into, itself included. -/
def upperLevels (c : Closure) (n : Operand) : List Level :=
  (n :: c.graph.upperLiterals n).filterMap Operand.level?

/-- The levels that flow into a node, itself included. -/
def lowerLevels (c : Closure) (n : Operand) : List Level :=
  (n :: c.graph.lowerLiterals n).filterMap Operand.level?

/-- The highest level that a node can have: the meet of the levels above it. -/
def highestLevel (c : Closure) (n : Operand) : Level := c.lattice.meetAll (c.upperLevels n)

/-- The lowest level that a node can have: the join of the levels below it. -/
def lowestLevel (c : Closure) (n : Operand) : Level := c.lattice.joinAll (c.lowerLevels n)

/-- Whether some solution breaks `a <= b` by the kinds of its sides alone. -/
def breaksByKind (c : Closure) (a b : Operand) : Bool :=
  c.admits [a] [] [b] || c.admits [a] [b] [] || c.admits [] [a] [b] || c.admits [b] [a] []

/-- Whether every solution satisfies `a <= b`, for a satisfiable set and different sides.
No choice of kinds may break it, and if both can be levels, then not even the highest level
of the left side may exceed the lowest of the right. -/
def entailsFlow (c : Closure) (a b : Operand) : Bool :=
  match a, b with
  | .literal lower, .literal upper => lower.le c.lattice upper
  | _, _ =>
    c.graph.reaches a b ||
      (!c.breaksByKind a b &&
        (!c.admits [] [a, b] [] || c.lattice.le (c.highestLevel a) (c.lowestLevel b)))

/-- Whether every solution satisfies `a ~ b`, for a satisfiable set and different sides. -/
def entailsCompatible (c : Closure) (k : Flow) : Bool :=
  decide (k ∈ c.graph.compatibilities) || c.graph.related k.lhs k.rhs ||
    !(c.admits [k.lhs] [k.rhs] [] || c.admits [k.rhs] [k.lhs] [])

/-- Whether every solution satisfies `a => b`, for a satisfiable set and different sides. -/
def entailsImplies (c : Closure) (a b : Operand) : Bool :=
  decide (b ∈ c.graph.spreadsTo a) || !(c.admits [a] [b] [] || c.admits [a] [] [b])

/-- Whether every solution of the set satisfies a constraint. A set without solutions
entails everything. -/
def entails (c : Closure) (k : Flow) : Bool :=
  k.isTrivial || !c.isSat ||
    match k.kind with
    | .flow => c.entailsFlow k.lhs k.rhs
    | .compatible => c.entailsCompatible k
    | .implies => c.entailsImplies k.lhs k.rhs

/-- The join of the literals that flow into a node; none if there are none or one of them
is the dynamic marker. -/
def leastLevel? (c : Closure) (n : Operand) : Option Level :=
  let lower := c.graph.lowerLiterals n
  if lower.isEmpty || lower.any Operand.isDyn then none
  else some (c.lattice.joinAll (lower.filterMap Operand.level?))

theorem leastLevel?_ofSet (K : LevelLattice Level) (cs : ConstraintSet) (n : Operand) :
    (ofSet K cs).leastLevel? n =
      if (((FlowGraph.ofSet cs).lowerLiterals n).isEmpty ||
        ((FlowGraph.ofSet cs).lowerLiterals n).any Operand.isDyn) = true then none
      else some (K.joinAll (((FlowGraph.ofSet cs).lowerLiterals n).filterMap Operand.level?)) :=
  rfl

end Closure

end FlowTyping
