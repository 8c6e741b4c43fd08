/-!
Reachability in finite directed graphs. `reach` walks breadth first from a start and lists
every other node it can get to, each with the labels of a shortest chain of arcs; nodes are
listed by the length of their chains, and within a length in the order of the arcs. `Path`
says when a chain of arcs leads from one node to another.
-/

namespace FlowTyping

universe u v

/-- A directed connection, labelled with what it stands for. -/
structure Arc (α : Type u) (ε : Type v) where
  source : α
  target : α
  label : ε

/-- A node that a walk has found, with the labels of the arcs that lead to it. -/
structure Found (α : Type u) (ε : Type v) where
  node : α
  chain : List ε

/-- The labels of some arcs, one after the other, lead from `start` to a node. -/
inductive Path {α : Type u} {ε : Type v} (arcs : List (Arc α ε)) (start : α) :
    α → List ε → Prop where
  | here : Path arcs start start []
  | step {node : α} {chain : List ε} {arc : Arc α ε} (before : Path arcs start node chain)
      (member : arc ∈ arcs) (leaves : arc.source = node) :
      Path arcs start arc.target (chain ++ [arc.label])

namespace Reachability

variable {α : Type u} {ε : Type v} [DecidableEq α]

/-- What one arc more finds behind a node. -/
def extensions (arcs : List (Arc α ε)) (found : Found α ε) : List (Found α ε) :=
  (arcs.filter (fun arc => decide (arc.source = found.node))).map
    (fun arc => ⟨arc.target, found.chain ++ [arc.label]⟩)

/-- The findings at nodes not seen before, the first one for each node. -/
def unseen (seen : List α) : List (Found α ε) → List (Found α ε)
  | [] => []
  | found :: rest =>
    if found.node ∈ seen then unseen seen rest
    else found :: unseen (found.node :: seen) rest

/-- The findings behind a frontier, layer by layer, for a number of layers. -/
def layers (arcs : List (Arc α ε)) : Nat → List α → List (Found α ε) → List (Found α ε)
  | 0, _, _ => []
  | count + 1, seen, frontier =>
    let next := unseen seen (frontier.flatMap (extensions arcs))
    if next.isEmpty then []
    else next ++ layers arcs count (seen ++ next.map Found.node) next

/-- The nodes other than the start that chains of arcs lead to. Each layer finds a new
target, so there are no more layers than arcs. -/
def reach (arcs : List (Arc α ε)) (start : α) : List (Found α ε) :=
  layers arcs arcs.length [start] [⟨start, []⟩]

end Reachability

end FlowTyping
