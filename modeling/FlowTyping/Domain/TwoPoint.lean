import FlowTyping.Domain.Error
import FlowTyping.LevelLattice
import FlowTyping.Text.Blank
import FlowTyping.Text.Case

namespace FlowTyping.TwoPoint

def lattice : LevelLattice Level where
  le
    | .low, .low => true
    | .low, .high => true
    | .high, .high => true
    | _, _ => false
  lub
    | .low, .high => .high
    | a, _ => a
  glb
    | .high, .low => .low
    | a, _ => a
  top := .high
  bottom := .low
  elements := [.low, .high]

/-- Reads a level, in upper or lower case and with blanks around. -/
def parse (text : String) : Except LatticeError Level :=
  let word := Text.upper (Text.strip text)
  if word = "LOW" then .ok .low
  else if word = "HIGH" then .ok .high
  else .error (.unknownPoint text)

end FlowTyping.TwoPoint
