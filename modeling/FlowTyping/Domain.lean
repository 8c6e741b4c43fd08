import FlowTyping.Bits
import FlowTyping.Document
import FlowTyping.Domain.Hasse
import FlowTyping.Domain.Powerset
import FlowTyping.Domain.Table
import FlowTyping.Domain.TwoPoint
import FlowTyping.Fault

namespace FlowTyping

inductive Domain where
  | twoPoint
  | powerset (sets : Powerset)
  | hasse (diagram : Hasse)
  | table (operations : OperationTable)
  deriving DecidableEq

namespace Domain

def lattice : Domain → LevelLattice Level
  | .twoPoint => TwoPoint.lattice
  | .powerset sets => sets.lattice
  | .hasse diagram => diagram.lattice
  | .table operations => operations.lattice

def parse : Domain → String → Except LatticeError Level
  | .twoPoint, text => TwoPoint.parse text
  | .powerset sets, text => sets.parse text
  | .hasse diagram, text => diagram.parse text
  | .table _, text => .ok (.name text)

/-- The text of a level as the report of a broken law names it. -/
def reported : Level → String
  | .principals members =>
    if members.toList.isEmpty then "frozenset()"
    else "frozenset(\x7b" ++ ", ".intercalate (members.toList.map Text.quoted) ++ "\x7d)"
  | level => level.shown

/-- Writes a level so that `parse` reads it back. A value that is no level is written too:
where levels are sets, a name counts as the set of its characters. -/
def format : Domain → Level → String
  | .powerset sets, .principals members => sets.formatNames members.toList
  | .powerset sets, .name text => sets.formatNames (Text.pieces text)
  | .hasse _, level => reported level
  | .table _, level => reported level
  | _, level => level.shown

/-- A level as an item of a stored list: where levels are names, a bare number stays one. -/
def formatItem : Domain → Level → Document
  | .hasse _, .number value => .int value
  | .table _, .number value => .int value
  | domain, level => .text (domain.format level)

/-- Why a domain cannot write a value. -/
def unwritable? : Domain → Literal → Option Fault
  | .twoPoint, .level .low => none
  | .twoPoint, .level .high => none
  | .twoPoint, _ => some .noSuchPart
  | .powerset _, .level (.principals _) => none
  | .powerset _, .level (.name _) => none
  | .powerset _, _ => some .wrongShape
  | _, _ => none

/-- Why a value cannot be an item of a stored list: the domain cannot write it, or it is a
set where levels are names. -/
def unlistable? : Domain → Literal → Option Fault
  | .hasse _, .level (.principals _) => some .wrongShape
  | .table _, .level (.principals _) => some .wrongShape
  | domain, value => domain.unwritable? value

def describe : Domain → String
  | .twoPoint => "LowHigh()"
  | .powerset sets => "PowersetLattice(" ++ Text.quotedList sets.principals ++ ")"
  | .hasse diagram => "FiniteLattice(" ++ Text.quotedList diagram.names ++ ")"
  | .table _ => "TableLattice()"

/-- Whether two domains are the same. Principals count in their order, a diagram only by
its names and its order; a table is no domain but itself. -/
def same : Domain → Domain → Bool
  | .twoPoint, .twoPoint => true
  | .powerset a, .powerset b => decide (a.principals = b.principals)
  | .hasse a, .hasse b => a.same b
  | _, _ => false

def elements : Domain → Except Fault (List Level)
  | .table operations =>
    match operations.elements with
    | some names => .ok (names.map Level.name)
    | none => .error .wrongShape
  | domain => .ok domain.lattice.elements

def isLevel (domain : Domain) (value : Literal) : Bool :=
  domain.lattice.elements.any (fun level => decide (value = .level level))

/-- Why the operations of a domain refuse a value. -/
def refusal? : Domain → Literal → Option Fault
  | .twoPoint, .level .low => none
  | .twoPoint, .level .high => none
  | .twoPoint, _ => some .noSuchPart
  | .powerset _, .level (.principals _) => none
  | .powerset _, _ => some .wrongShape
  | .hasse diagram, .level (.name name) => if diagram.knows name then none else some .noEntry
  | .hasse _, _ => some .noEntry
  | .table _, _ => none

/-- The first refusal among some values. -/
def refusalAmong? (domain : Domain) (values : List Literal) : Option Fault :=
  values.findSome? domain.refusal?

/-- Why two values cannot be compared. Bare texts and bare numbers compare among
themselves where levels are sets, and a diagram looks up the left value only. -/
def incomparable? : Domain → Literal → Literal → Option Fault
  | .powerset _, .level (.name _), .level (.name _) => none
  | .powerset _, .level (.number _), .level (.number _) => none
  | .hasse diagram, a, _ => (Domain.hasse diagram).refusal? a
  | domain, a, b => domain.refusalAmong? [a, b]

/-- Compares two values that need not be levels of the domain. -/
def le? (domain : Domain) (a b : Literal) : Except Fault Bool :=
  match domain.incomparable? a b with
  | some fault => .error fault
  | none =>
    match domain, a, b with
    | .powerset _, .level (.name s), .level (.name t) => .ok (decide (s ≤ t))
    | .powerset _, .level (.number m), .level (.number n) => .ok (decide (m ≤ n))
    | _, _, _ => .ok (domain.lattice.withDyn.le a b)

/-- Compares two values in the order extended with the dynamic marker. -/
def typeLe? (domain : Domain) (a b : Literal) : Except Fault Bool :=
  if a = .dyn ∨ b = .dyn then .ok (decide (a = b)) else domain.le? a b

/-- A join or a meet of values that need not be levels of the domain. -/
def combine? (domain : Domain) (operation : Literal → Literal → Literal) (a b : Literal) :
    Except Fault Literal :=
  match domain.refusalAmong? [a, b] with
  | some fault => .error fault
  | none => .ok (operation a b)

/-- The join of two values that need not be levels. Where levels are sets, two bare numbers
join as the sets of their bits. -/
def lub? (domain : Domain) (a b : Literal) : Except Fault Literal :=
  match domain, a, b with
  | .powerset _, .level (.number m), .level (.number n) => .ok (.level (.number (Bits.union m n)))
  | _, _, _ => domain.combine? domain.lattice.withDyn.lub a b

/-- The meet of two values that need not be levels. Where levels are sets, two bare numbers
meet as the sets of their bits. -/
def glb? (domain : Domain) (a b : Literal) : Except Fault Literal :=
  match domain, a, b with
  | .powerset _, .level (.number m), .level (.number n) => .ok (.level (.number (Bits.inter m n)))
  | _, _, _ => domain.combine? domain.lattice.withDyn.glb a b

def joinAll? (domain : Domain) (values : List Literal) : Except Fault Literal :=
  values.foldlM domain.lub? (.level domain.lattice.bottom)

def meetAll? (domain : Domain) (values : List Literal) : Except Fault Literal :=
  values.foldlM domain.glb? (.level domain.lattice.top)

/-- The join of levels that need not belong to the domain. -/
def joinLevels? (domain : Domain) (levels : List Level) : Except Fault Level :=
  (domain.joinAll? (levels.map Literal.level)).map Literal.levelPart

/-- The meet of levels that need not belong to the domain. -/
def meetLevels? (domain : Domain) (levels : List Level) : Except Fault Level :=
  (domain.meetAll? (levels.map Literal.level)).map Literal.levelPart

/-- Writes a value that need not be a level as an item of a list. -/
def format? (domain : Domain) (value : Literal) : Except Fault Document :=
  match domain.unlistable? value with
  | some fault => .error fault
  | none =>
    match value with
    | .dyn => .ok (.text value.shown)
    | .level level => .ok (domain.formatItem level)

/-- The laws for three values that need not be levels, in the order in which they are
tested, each with whether it holds if the domain can tell. -/
def lawsOf (domain : Domain) (a b c : Literal) :
    List (Except Fault Bool × LevelLattice.Violation Literal) :=
  let top : Literal := .level domain.lattice.top
  let bottom : Literal := .level domain.lattice.bottom
  let le := domain.le?
  let lub := domain.lub?
  let glb := domain.glb?
  let both (x y : Except Fault Bool) : Except Fault Bool := do if ← x then y else pure false
  let same (x y : Except Fault Literal) : Except Fault Bool := do
    let left ← x
    let right ← y
    pure (decide (left = right))
  let agree (x y : Except Fault Bool) : Except Fault Bool := do
    let left ← x
    let right ← y
    pure (left == right)
  [(le a a, .reflexivity a),
   (do if ← both (le a b) (le b a) then pure (decide (a = b)) else pure true, .antisymmetry a b),
   (do if ← both (le a b) (le b c) then le a c else pure true, .transitivity a b c),
   (same (lub a a) (pure a), .lubIdempotence a),
   (same (glb a a) (pure a), .glbIdempotence a),
   (same (lub a b) (lub b a), .lubCommutativity a b),
   (same (glb a b) (glb b a), .glbCommutativity a b),
   (same (do lub (← lub a b) c) (do lub a (← lub b c)), .lubAssociativity a b c),
   (same (do glb (← glb a b) c) (do glb a (← glb b c)), .glbAssociativity a b c),
   (agree (le a b) (same (lub a b) (pure b)), .orderAgainstLub a b),
   (agree (le a b) (same (glb a b) (pure a)), .orderAgainstGlb a b),
   (le bottom a, .bottomNotBelow a),
   (le a top, .topNotAbove a),
   (same (lub a top) (pure top), .topNotAbsorbing a),
   (same (glb a bottom) (pure bottom), .bottomNotAbsorbing a)]

/-- The first of some laws that does not hold, unless the domain cannot tell before. -/
def firstBroken : List (Except Fault Bool × LevelLattice.Violation Literal) →
    Except Fault (Option (LevelLattice.Violation Literal))
  | [] => .ok none
  | (holds, law) :: rest => do if ← holds then firstBroken rest else pure (some law)

/-- The first law that three values break. The laws of values that the domain refuses are
tested as far as the domain can tell. -/
def lawViolation? (domain : Domain) (a b c : Literal) :
    Except Fault (Option (LevelLattice.Violation Literal)) :=
  if (domain.refusalAmong? [a, b, c]).isNone then
    .ok (domain.lattice.withDyn.firstViolation? a b c)
  else firstBroken (domain.lawsOf a b c)

end Domain

end FlowTyping
