import FlowTyping.Operand

/-!
Constraints between two operands of an ordered type:

* `a <= b`: what is at `a` may flow into `b`;
* `a ~ b`: `a` and `b` are compatible;
* `a => b`: if `a` is dynamic, so is `b`.

Compatibility is symmetric, so its sides are kept in order: a constraint and the one with
its sides exchanged are the same constraint.
-/

namespace FlowTyping

inductive Kind where
  | flow
  | compatible
  | implies
  deriving DecidableEq, Repr

namespace Kind

def operator : Kind → String
  | .flow => "<="
  | .compatible => "~"
  | .implies => "=>"

/-- The place of a kind in the order of constraints: the weaker, the earlier. -/
def rank : Kind → Nat
  | .implies => 0
  | .compatible => 1
  | .flow => 2

def all : List Kind := [.flow, .compatible, .implies]

end Kind

/-- A constraint; the sides of a compatibility stand in order. -/
structure Constraint (α : Type) [Ord α] where
  lhs : α
  kind : Kind
  rhs : α
  normal : kind = .compatible → compare rhs lhs ≠ .lt
  deriving DecidableEq

namespace Constraint

variable {α : Type} [Ord α]

/-- The constraint of a kind between two operands. -/
def make [Std.TransOrd α] (lhs : α) (kind : Kind) (rhs : α) : Constraint α :=
  if swap : kind = .compatible ∧ compare rhs lhs = .lt then
    ⟨rhs, kind, lhs, fun _ => Std.OrientedCmp.not_lt_of_lt swap.2⟩
  else ⟨lhs, kind, rhs, fun isCompatible less => swap ⟨isCompatible, less⟩⟩

/-- Whether both sides are the same, so that the constraint says nothing. -/
def isTrivial [DecidableEq α] (c : Constraint α) : Bool := decide (c.lhs = c.rhs)

def mentions [DecidableEq α] (c : Constraint α) (operand : α) : Bool :=
  decide (c.lhs = operand) || decide (c.rhs = operand)

def shown (operand : α → String) (c : Constraint α) : String :=
  operand c.lhs ++ " " ++ c.kind.operator ++ " " ++ operand c.rhs

theorem eq_of_parts {c d : Constraint α} (lhs : c.lhs = d.lhs) (kind : c.kind = d.kind)
    (rhs : c.rhs = d.rhs) : c = d := by
  obtain ⟨_, _, _, _⟩ := c
  obtain ⟨_, _, _, _⟩ := d
  simp_all

@[simp] theorem make_kind [Std.TransOrd α] (a b : α) (kind : Kind) :
    (make a kind b).kind = kind := by
  unfold make
  split <;> rfl

theorem make_lhs_of_ne [Std.TransOrd α] {kind : Kind} (other : kind ≠ .compatible) (a b : α) :
    (make a kind b).lhs = a := by
  simp [make, other]

theorem make_rhs_of_ne [Std.TransOrd α] {kind : Kind} (other : kind ≠ .compatible) (a b : α) :
    (make a kind b).rhs = b := by
  simp [make, other]

/-- The sides of a constraint are those it was made of, exchanged at most for a compatibility. -/
theorem make_sides [Std.TransOrd α] (a b : α) (kind : Kind) :
    ((make a kind b).lhs = a ∧ (make a kind b).rhs = b) ∨
      (kind = .compatible ∧ (make a kind b).lhs = b ∧ (make a kind b).rhs = a) := by
  unfold make
  split
  · rename_i swapped
    exact Or.inr ⟨swapped.1, rfl, rfl⟩
  · exact Or.inl ⟨rfl, rfl⟩

/-- Constraints are equal only if they were made of the same operands, which may have been
exchanged for a compatibility. -/
theorem eq_or_swapped_of_make_eq [Std.TransOrd α] {a b a' b' : α} {kind kind' : Kind}
    (same : make a kind b = make a' kind' b') :
    kind = kind' ∧ (a = a' ∧ b = b' ∨ kind = .compatible ∧ a = b' ∧ b = a') := by
  have kinds := congrArg Constraint.kind same
  rw [make_kind, make_kind] at kinds
  subst kinds
  have lefts := congrArg lhs same
  have rights := congrArg rhs same
  refine ⟨rfl, ?_⟩
  rcases make_sides a b kind with ⟨left, right⟩ | ⟨compatible, left, right⟩
  · rw [left] at lefts
    rw [right] at rights
    subst lefts rights
    rcases make_sides a' b' kind with ⟨left', right'⟩ | ⟨compatible, left', right'⟩
    · exact Or.inl ⟨left', right'⟩
    · exact Or.inr ⟨compatible, left', right'⟩
  · rw [left] at lefts
    rw [right] at rights
    subst lefts rights
    rcases make_sides a' b' kind with ⟨left', right'⟩ | ⟨_, left', right'⟩
    · exact Or.inr ⟨compatible, right', left'⟩
    · exact Or.inl ⟨right', left'⟩

theorem make_compatible_comm [Std.TransOrd α] [Std.LawfulEqOrd α] (a b : α) :
    make a .compatible b = make b .compatible a := by
  cases compared : compare b a with
  | lt =>
    have reversed : compare a b = .gt := Std.OrientedCmp.gt_of_lt compared
    simp [make, compared, reversed]
  | gt =>
    have reversed : compare a b = .lt := Std.OrientedCmp.lt_of_gt compared
    simp [make, compared, reversed]
  | eq =>
    have same : b = a := Std.LawfulEqOrd.eq_of_compare compared
    subst same
    rfl

@[simp] theorem make_parts [Std.TransOrd α] (c : Constraint α) : make c.lhs c.kind c.rhs = c := by
  unfold make
  split
  · rename_i swapped
    exact absurd swapped.2 (c.normal swapped.1)
  · rfl

def kindRank (c : Constraint α) : Nat := c.kind.rank

/-- Constraints by kind, then by their sides. -/
def order : Constraint α → Constraint α → Ordering :=
  compareLex (compareOn kindRank) (compareLex (compareOn lhs) (compareOn rhs))

instance [Std.TransOrd α] : Std.TransCmp (order : Constraint α → Constraint α → Ordering) := by
  unfold order
  infer_instance

theorem keys_injective :
    Function.Injective (fun c : Constraint α => (c.kindRank, c.lhs, c.rhs)) := by
  intro c d same
  obtain ⟨ranks, lefts, rights⟩ : kindRank c = kindRank d ∧ c.lhs = d.lhs ∧ c.rhs = d.rhs := by
    simpa using same
  refine eq_of_parts lefts ?_ rights
  revert ranks
  unfold kindRank
  cases c.kind <;> cases d.kind <;> simp [Kind.rank]

instance [Std.TransOrd α] [Std.LawfulEqOrd α] :
    Std.LawfulEqCmp (order : Constraint α → Constraint α → Ordering) :=
  ComparesBy.lawful (.lex (.on kindRank) (.lex (.on lhs) (.on rhs))) keys_injective

end Constraint

/-- A constraint between literals and variables. -/
abbrev Flow := Constraint Operand

namespace Flow

def vars (c : Flow) : List TypeVar := [c.lhs, c.rhs].filterMap Operand.var?

def shown (labels : Labels) (c : Flow) : String := Constraint.shown (Operand.shown labels) c

end Flow

end FlowTyping
