import FlowTyping.Error

namespace FlowTyping.Domain

def checkLaws (domain : Domain) (a b c : Literal) : Except Error Unit :=
  match domain.lawViolation? a b c with
  | .error fault => .error (.fault fault)
  | .ok (some law) => .error (.brokenLaw law)
  | .ok none => .ok ()

/-- Tests the laws on all triples of levels and counts the triples. -/
def checkAllLaws (domain : Domain) : Except Error Nat := do
  match domain.elements with
  | .error fault => .error (.fault fault)
  | .ok _ =>
    let triples := domain.lattice.triples
    triples.forM (fun t => domain.checkLaws (.level t.1) (.level t.2.1) (.level t.2.2))
    pure triples.length

end FlowTyping.Domain
