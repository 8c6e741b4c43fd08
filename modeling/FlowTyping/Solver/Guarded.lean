import FlowTyping.ConstraintSet.Checked
import FlowTyping.Error

namespace FlowTyping

/-- What the verdict of the graph is held against. -/
inductive CrossCheck where
  | off
  /-- The exact search for a solution. -/
  | search
  /-- A verdict known beforehand. -/
  | given (sat : Bool)
  deriving DecidableEq, Repr

def CrossCheck.verdict? (domain : Domain) (cs : ConstraintSet) :
    CrossCheck → Except Fault (Option Bool)
  | .off => .ok none
  | .given sat => .ok (some sat)
  | .search => do
    Checked.values domain cs
    pure (some (Search.isSat domain.lattice cs))

def Domain.solve (domain : Domain) (cs : ConstraintSet) (tags : TagMap) (fixed : List TypeVar)
    (check : CrossCheck) : Except Error Verdict := do
  let closure ← (Checked.closure domain cs).mapError Error.fault
  let verdict ← (check.verdict? domain cs).mapError Error.fault
  if verdict.any (fun sat => sat != closure.isSat) then
    throw (.disagreement ⟨closure.isSat, !closure.isSat, cs⟩)
  match closure.reason? with
  | some reason => pure (.unsatisfiable reason (closure.conflicts tags))
  | none =>
    let assignment ← (Checked.leastAssignment domain cs fixed).mapError Error.fault
    pure (.satisfiable (assignment.getD .empty))

end FlowTyping
