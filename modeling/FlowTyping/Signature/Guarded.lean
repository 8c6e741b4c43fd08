import FlowTyping.ConstraintSet.Checked
import FlowTyping.Error

namespace FlowTyping.Domain

def boundaryConstraints (domain : Domain) (cs : ConstraintSet)
    (params : Table TypeVar (Option Int)) (ret : Option TypeVar) :
    Except Error SymbolConstraints := do
  let projected ← (Checked.project domain cs (Signature.boundaryVars params ret)).mapError
    Error.fault
  (Signature.restate params ret projected).mapError Error.symbol

def signatureOfUnit (domain : Domain) (cs : ConstraintSet) (ns : Namespace) (count : Nat)
    (effects : Effects) : Except Error Signature × Namespace :=
  ((domain.boundaryConstraints cs (Signature.unitParams ns count) (some ns.ret)).map
      (fun constraints => ⟨constraints, effects⟩),
    (ns.paramsBelow count).2)

end FlowTyping.Domain
