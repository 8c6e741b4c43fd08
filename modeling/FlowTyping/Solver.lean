import FlowTyping.Assignment
import FlowTyping.Diagnosis
import FlowTyping.Semantics.Search

namespace FlowTyping

/-- What is known of a set of constraints. -/
inductive Verdict where
  | satisfiable (assignment : Assignment)
  | unsatisfiable (reason : UnsatReason) (conflicts : List FlowConflict)

/-- The graph and the cross-check disagree about a set. -/
structure Disagreement where
  graphSays : Bool
  checkSays : Bool
  constraints : ConstraintSet
  deriving DecidableEq

def satWord (sat : Bool) : String := if sat then "sat" else "unsat"

def Disagreement.message (labels : Labels) (d : Disagreement) : String :=
  "Graph solver says " ++ satWord d.graphSays ++ ", Z3 says " ++ satWord d.checkSays ++
    " for " ++ d.constraints.shown labels

/-- Solves a set, leaving the `fixed` variables out of the assignment. If another verdict is
given, it has to agree. -/
def solve (K : LevelLattice Level) (cs : ConstraintSet) (tags : TagMap) (fixed : List TypeVar)
    (check : Option Bool) : Except Disagreement Verdict :=
  let closure := Closure.ofSet K cs
  if check.any (fun sat => sat != closure.isSat) then
    .error ⟨closure.isSat, !closure.isSat, cs⟩
  else
    match closure.reason? with
    | some reason => .ok (.unsatisfiable reason (closure.conflicts tags))
    | none => .ok (.satisfiable ((cs.leastAssignment? K fixed).getD .empty))

end FlowTyping
