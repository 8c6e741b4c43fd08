import FlowTyping.Level

namespace FlowTyping

/-- The operations of a bounded lattice and the list of its elements. -/
structure LevelLattice (α : Type) where
  le : α → α → Bool
  lub : α → α → α
  glb : α → α → α
  top : α
  bottom : α
  elements : List α

namespace LevelLattice

variable {α : Type}

/-- The join of a list; the empty join is the bottom. -/
def joinAll (K : LevelLattice α) (levels : List α) : α := levels.foldl K.lub K.bottom

/-- The meet of a list; the empty meet is the top. -/
def meetAll (K : LevelLattice α) (levels : List α) : α := levels.foldl K.glb K.top

/-- On the carrier, `le` is a partial order with least and greatest element in which `lub`
and `glb` give least upper and greatest lower bounds. -/
structure Lawful (K : LevelLattice α) : Prop where
  top_mem : K.top ∈ K.elements
  bottom_mem : K.bottom ∈ K.elements
  lub_mem : ∀ a ∈ K.elements, ∀ b ∈ K.elements, K.lub a b ∈ K.elements
  glb_mem : ∀ a ∈ K.elements, ∀ b ∈ K.elements, K.glb a b ∈ K.elements
  refl : ∀ a ∈ K.elements, K.le a a = true
  antisymm : ∀ a ∈ K.elements, ∀ b ∈ K.elements, K.le a b = true → K.le b a = true → a = b
  trans : ∀ a ∈ K.elements, ∀ b ∈ K.elements, ∀ c ∈ K.elements,
    K.le a b = true → K.le b c = true → K.le a c = true
  le_lub_left : ∀ a ∈ K.elements, ∀ b ∈ K.elements, K.le a (K.lub a b) = true
  le_lub_right : ∀ a ∈ K.elements, ∀ b ∈ K.elements, K.le b (K.lub a b) = true
  lub_le : ∀ a ∈ K.elements, ∀ b ∈ K.elements, ∀ c ∈ K.elements,
    K.le a c = true → K.le b c = true → K.le (K.lub a b) c = true
  glb_le_left : ∀ a ∈ K.elements, ∀ b ∈ K.elements, K.le (K.glb a b) a = true
  glb_le_right : ∀ a ∈ K.elements, ∀ b ∈ K.elements, K.le (K.glb a b) b = true
  le_glb : ∀ a ∈ K.elements, ∀ b ∈ K.elements, ∀ c ∈ K.elements,
    K.le c a = true → K.le c b = true → K.le c (K.glb a b) = true
  bottom_le : ∀ a ∈ K.elements, K.le K.bottom a = true
  le_top : ∀ a ∈ K.elements, K.le a K.top = true

/-- A law of bounded lattices, with the elements that break it. -/
inductive Violation (α : Type) where
  | reflexivity (a : α)
  | antisymmetry (a b : α)
  | transitivity (a b c : α)
  | lubIdempotence (a : α)
  | glbIdempotence (a : α)
  | lubCommutativity (a b : α)
  | glbCommutativity (a b : α)
  | lubAssociativity (a b c : α)
  | glbAssociativity (a b c : α)
  | orderAgainstLub (a b : α)
  | orderAgainstGlb (a b : α)
  | bottomNotBelow (a : α)
  | topNotAbove (a : α)
  | topNotAbsorbing (a : α)
  | bottomNotAbsorbing (a : α)
  deriving DecidableEq

def Violation.message (shown : α → String) : Violation α → String
  | .reflexivity a => "Reflexivity violated: " ++ shown a
  | .antisymmetry a b => "Antisymmetry violated: " ++ shown a ++ ", " ++ shown b
  | .transitivity a b c =>
    "Transitivity violated: " ++ shown a ++ " ⊑ " ++ shown b ++ " ⊑ " ++ shown c
  | .lubIdempotence a => "lub idempotence violated: " ++ shown a
  | .glbIdempotence a => "glb idempotence violated: " ++ shown a
  | .lubCommutativity a b => "lub commutativity violated: " ++ shown a ++ ", " ++ shown b
  | .glbCommutativity a b => "glb commutativity violated: " ++ shown a ++ ", " ++ shown b
  | .lubAssociativity a b c =>
    "lub associativity violated: " ++ shown a ++ ", " ++ shown b ++ ", " ++ shown c
  | .glbAssociativity a b c =>
    "glb associativity violated: " ++ shown a ++ ", " ++ shown b ++ ", " ++ shown c
  | .orderAgainstLub a b => "le/lub mismatch: " ++ shown a ++ ", " ++ shown b
  | .orderAgainstGlb a b => "le/glb mismatch: " ++ shown a ++ ", " ++ shown b
  | .bottomNotBelow a => "bottom not below " ++ shown a
  | .topNotAbove a => "top not above " ++ shown a
  | .topNotAbsorbing a => "top not absorbing for lub: " ++ shown a
  | .bottomNotAbsorbing a => "bottom not absorbing for glb: " ++ shown a

/-- The laws for three elements, in the order in which they are tested, each with whether
it holds. -/
def laws [DecidableEq α] (K : LevelLattice α) (a b c : α) : List (Bool × Violation α) :=
  [(K.le a a, .reflexivity a),
   (!(K.le a b && K.le b a) || decide (a = b), .antisymmetry a b),
   (!(K.le a b && K.le b c) || K.le a c, .transitivity a b c),
   (decide (K.lub a a = a), .lubIdempotence a),
   (decide (K.glb a a = a), .glbIdempotence a),
   (decide (K.lub a b = K.lub b a), .lubCommutativity a b),
   (decide (K.glb a b = K.glb b a), .glbCommutativity a b),
   (decide (K.lub (K.lub a b) c = K.lub a (K.lub b c)), .lubAssociativity a b c),
   (decide (K.glb (K.glb a b) c = K.glb a (K.glb b c)), .glbAssociativity a b c),
   (K.le a b == decide (K.lub a b = b), .orderAgainstLub a b),
   (K.le a b == decide (K.glb a b = a), .orderAgainstGlb a b),
   (K.le K.bottom a, .bottomNotBelow a),
   (K.le a K.top, .topNotAbove a),
   (decide (K.lub a K.top = K.top), .topNotAbsorbing a),
   (decide (K.glb a K.bottom = K.bottom), .bottomNotAbsorbing a)]

/-- The first law that three elements break. -/
def firstViolation? [DecidableEq α] (K : LevelLattice α) (a b c : α) : Option (Violation α) :=
  ((K.laws a b c).find? (fun law => !law.1)).map Prod.snd

/-- All triples of elements, in the order of the carrier. -/
def triples (K : LevelLattice α) : List (α × α × α) :=
  K.elements.flatMap (fun a => K.elements.flatMap (fun b => K.elements.map (fun c => (a, b, c))))

/-- The lattice with the dynamic marker beside its elements: the marker is below nothing
and above nothing, and a join or meet with it is its left operand. -/
def withDyn (K : LevelLattice Level) : LevelLattice Literal where
  le
    | .level a, .level b => K.le a b
    | _, _ => false
  lub
    | .level a, .level b => .level (K.lub a b)
    | a, _ => a
  glb
    | .level a, .level b => .level (K.glb a b)
    | a, _ => a
  top := .level K.top
  bottom := .level K.bottom
  elements := K.elements.map Literal.level

end LevelLattice

/-- The order of levels extended to literals: the marker is related to itself only. -/
def Literal.le (K : LevelLattice Level) : Literal → Literal → Bool
  | .dyn, .dyn => true
  | .level a, .level b => K.le a b
  | _, _ => false

end FlowTyping
