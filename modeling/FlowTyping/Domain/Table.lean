import FlowTyping.LevelLattice

namespace FlowTyping

/-- The answers of the operations: pairs in order, and triples of two operands and a result. -/
structure OperationTable where
  /-- The carrier, unless it cannot be listed. -/
  elements : Option (List String)
  le : List (String × String)
  lub : List (String × String × String)
  glb : List (String × String × String)
  top : String
  bottom : String
  deriving DecidableEq

namespace OperationTable

/-- The result listed first for two operands; the left operand where there is none. -/
def answer (table : List (String × String × String)) (a b : String) : String :=
  match table.find? (fun row => row.1 == a && row.2.1 == b) with
  | some row => row.2.2
  | none => a

def lattice (t : OperationTable) : LevelLattice Level where
  le
    | .name a, .name b => t.le.contains (a, b)
    | _, _ => false
  lub
    | .name a, .name b => .name (answer t.lub a b)
    | a, _ => a
  glb
    | .name a, .name b => .name (answer t.glb a b)
    | a, _ => a
  top := .name t.top
  bottom := .name t.bottom
  elements := (t.elements.getD []).map Level.name

end OperationTable

end FlowTyping
