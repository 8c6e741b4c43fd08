import FlowTyping.Proofs.Consequences

namespace FlowTyping

variable {K : LevelLattice Level} {cs kept : ConstraintSet} {σ τ ρ : Valuation} {onto : VarSet}
variable {n : Operand} {c d : Flow} {v : TypeVar}

/-- An operand within some variables is retained if some value is ruled out for it. -/
theorem Operand.Within.retained (within : n.Within K onto) (solution : Solution K cs ρ) {x : Value}
    (belongs : x.Belongs K) (excluded : ∀ σ, Solution K cs σ → n.value σ ≠ x) :
    Retained K cs onto n := by
  have split : Retained K cs onto n ∨ ∃ v, n = .var v ∧ v ∉ cs.vars := within.retained_or
  rcases split with retained | ⟨v, rfl, free⟩
  · exact retained
  · have value : Function.update ρ v x v = x := Function.update_self v x ρ
    exact absurd value (excluded _ (solution.update free belongs))

section Retained

variable (lawful : K.Lawful) (based : cs.Over K) (solution : Solution K cs ρ)
include lawful based

/-- What all solutions satisfy between retained operands holds with the entailed constraints
of its kind. -/
theorem holds_between {a b : Operand} {kind : Kind}
    (told : ∀ c ∈ cs.entailedAmong K onto, c.kind = kind → Flow.holds K σ c = true)
    (retainedA : Retained K cs onto a) (retainedB : Retained K cs onto b) (apart : a ≠ b)
    (mixed : ¬ (a.isLiteral = true ∧ b.isLiteral = true))
    (entailed : ∀ τ, Solution K cs τ → kind.holds K (a.value τ) (b.value τ) = true) :
    kind.holds K (a.value σ) (b.value σ) = true := by
  have listed : .make a kind b ∈ cs.entailedAmong K onto := by
    apply (ConstraintSet.mem_entailedAmong lawful based).mpr
    refine ⟨ConstraintSet.mem_candidates.mpr ⟨a, ?_, b, ?_, kind, apart, mixed, rfl⟩, ?_⟩
    · exact ConstraintSet.mem_projectionOperands.mpr retainedA
    · exact ConstraintSet.mem_projectionOperands.mpr retainedB
    · intro τ solved
      rw [Flow.holds_make]
      exact entailed τ solved
  have held := told _ listed (Constraint.make_kind a b kind)
  rwa [Flow.holds_make] at held

include solution

/-- The flows between retained operands tell which of them are public. -/
theorem value_of_isPublic
    (flows : ∀ c ∈ cs.entailedAmong K onto, c.kind = .flow → Flow.holds K σ c = true)
    (retained : Retained K cs onto n) (isPublic : IsPublic K cs n) : n.value σ = .pub := by
  cases n with
  | literal l =>
    have value := isPublic ρ solution
    cases l <;> cases value
  | var x =>
    have below : ∀ l : Literal, Retained K cs onto (.literal l) →
        Value.le K (σ x) (.ofLiteral l) = true := by
      intro l known
      apply holds_between lawful based flows retained known (by simp)
        (by simp [Operand.isLiteral])
      intro τ solved
      rw [isPublic τ solved]
      rfl
    exact Value.eq_pub_of_le (below .dyn trivial) (below (.level K.bottom) lawful.bottom_mem)

theorem value_of_notDynamic
    (compatibles : ∀ c ∈ cs.entailedAmong K onto, c.kind = .compatible →
      Flow.holds K σ c = true)
    (retained : Retained K cs onto n) (notDynamic : NotDynamic K cs n) : n.value σ ≠ .dyn := by
  cases n with
  | literal l =>
    cases l with
    | dyn => exact absurd rfl (notDynamic ρ solution)
    | level l => simp [Operand.value, Value.ofLiteral]
  | var x =>
    have bottom : Retained K cs onto (.literal (.level K.bottom)) := lawful.bottom_mem
    have held : (σ x).compatible (.level K.bottom) = true := by
      apply holds_between lawful based compatibles retained bottom (by simp)
        (by simp [Operand.isLiteral])
      intro τ solved
      have static : τ x ≠ .dyn := notDynamic τ solved
      show (τ x).compatible (.level K.bottom) = true
      cases value : τ x with
      | pub => rfl
      | dyn => exact absurd value static
      | level l => rfl
    show σ x ≠ .dyn
    intro dynamic
    rw [dynamic] at held
    cases held

theorem value_of_dynamic
    (flows : ∀ c ∈ cs.entailedAmong K onto, c.kind = .flow → Flow.holds K σ c = true)
    (retained : Retained K cs onto n) (dynamic : ∀ τ, Solution K cs τ → n.value τ = .dyn) :
    n.value σ = .dyn := by
  cases n with
  | literal l => exact dynamic ρ solution
  | var x =>
    have marker : Retained K cs onto (.literal .dyn) := trivial
    apply Value.dyn_le_iff.mp
    apply holds_between lawful based flows marker retained (by simp) (by simp [Operand.isLiteral])
    intro τ solved
    rw [dynamic τ solved]
    rfl

end Retained

/-- A constraint with a side that a projection does not retain. -/
def Idle (K : LevelLattice Level) (cs : ConstraintSet) (onto : VarSet) (c : Flow) : Prop :=
  ¬ (Retained K cs onto c.lhs ∧ Retained K cs onto c.rhs)

theorem not_idle_iff : ¬ Idle K cs onto c ↔ Retained K cs onto c.lhs ∧ Retained K cs onto c.rhs :=
  Classical.not_not

/-- Under a valuation an idle constraint asks this of its left side only. -/
structure IdleShape (K : LevelLattice Level) (cs : ConstraintSet) (onto : VarSet) (c : Flow) :
    Prop where
  lhs : Retained K cs onto c.lhs
  rhs : ∃ v, c.rhs = .var v ∧ v ∉ cs.vars
  kind : c.kind = .flow ∧ IsPublic K cs c.lhs ∨ c.kind = .implies ∧ NotDynamic K cs c.lhs

section Idle

variable (lawful : K.Lawful) (based : cs.Over K) (solution : Solution K cs ρ)
include lawful based

/-- What solves the tightest consequences satisfies the flows that a projection starts from. -/
theorem flows_hold_of_backbone (solved : Solution K ((cs.consequences K onto).backbone K) σ) :
    ∀ c ∈ cs.entailedAmong K onto, c.kind = .flow → Flow.holds K σ c = true := by
  intro c member flow
  have consequence := ((ConstraintSet.mem_entailedAmong_iff lawful based).mp member).1
  exact ConstraintSet.holds_of_backbone lawful (ConstraintSet.consequences_over lawful based)
    solved c consequence flow

include solution

/-- All other consequences about variables not mentioned follow from the flows. -/
theorem idleShape_of_core (member : c ∈ (cs.consequences K onto).core K)
    (idle : Idle K cs onto c) : IdleShape K cs onto c := by
  have overAll : (cs.consequences K onto).Over K := ConstraintSet.consequences_over lawful based
  obtain ⟨left, right, apart, _, entailed⟩ :=
    (ConstraintSet.mem_consequences lawful based).mp (ConstraintSet.core_subset c member)
  have underivable := ((ConstraintSet.mem_core lawful overAll).mp member).2
  have bottom : (Value.level K.bottom).Belongs K := lawful.bottom_mem
  have splitLeft : Retained K cs onto c.lhs ∨ ∃ v, c.lhs = .var v ∧ v ∉ cs.vars :=
    left.retained_or
  have splitRight : Retained K cs onto c.rhs ∨ ∃ v, c.rhs = .var v ∧ v ∉ cs.vars :=
    right.retained_or
  rcases splitRight with keptRight | ⟨v, side, free⟩
  · obtain ⟨v, side, free⟩ := splitLeft.resolve_left fun keptLeft => idle ⟨keptLeft, keptRight⟩
    exfalso
    cases kind : c.kind with
    | flow => exact false_of_free_source lawful entailed free apart solution kind side
    | compatible =>
      have isPublic := (isPublic_of_free_compatible lawful entailed free apart kind).2 side
      refine underivable.resolve_left (by simp [kind]) ?_
      intro σ solved
      have flows := flows_hold_of_backbone lawful based solved
      rw [Flow.holds, kind, value_of_isPublic lawful based solution flows keptRight isPublic]
      show (c.lhs.value σ).compatible .pub = true
      rw [Value.compatible_comm]
      rfl
    | implies =>
      have dynamic := dynamic_of_free_implies entailed free apart kind side
      refine underivable.resolve_left (by simp [kind]) ?_
      intro σ solved
      have flows := flows_hold_of_backbone lawful based solved
      rw [Flow.holds, kind, value_of_dynamic lawful based solution flows keptRight dynamic]
      exact Value.implies_iff.mpr fun _ => rfl
  · cases kind : c.kind with
    | flow =>
      have isPublic := isPublic_of_free_flow lawful entailed free apart kind side
      exact ⟨left.retained solution (x := .dyn) trivial isPublic.notDynamic, ⟨v, side, free⟩,
        Or.inl ⟨kind, isPublic⟩⟩
    | implies =>
      have notDynamic := notDynamic_of_free_implies entailed free apart kind side
      exact ⟨left.retained solution (x := .dyn) trivial notDynamic, ⟨v, side, free⟩,
        Or.inr ⟨kind, notDynamic⟩⟩
    | compatible =>
      have isPublic := (isPublic_of_free_compatible lawful entailed free apart kind).1 side
      have keptLeft := left.retained solution (x := .dyn) trivial isPublic.notDynamic
      refine absurd ?_ (underivable.resolve_left (by simp [kind]))
      intro σ solved
      have flows := flows_hold_of_backbone lawful based solved
      rw [Flow.holds, kind, value_of_isPublic lawful based solution flows keptLeft isPublic]
      rfl

theorem IdleShape.holds (shape : IdleShape K cs onto c)
    (flows : ∀ d ∈ cs.entailedAmong K onto, d.kind = .flow → Flow.holds K σ d = true)
    (compatibles : c.kind = .implies → ∀ d ∈ cs.entailedAmong K onto, d.kind = .compatible →
      Flow.holds K σ d = true)
    (agree : c.lhs.value τ = c.lhs.value σ) : Flow.holds K τ c = true := by
  rcases shape.kind with ⟨kind, isPublic⟩ | ⟨kind, notDynamic⟩
  · rw [Flow.holds, kind, agree, value_of_isPublic lawful based solution flows shape.lhs isPublic]
    rfl
  · have static := value_of_notDynamic lawful based solution (compatibles kind) shape.lhs notDynamic
    rw [Flow.holds, kind, agree]
    exact Value.implies_iff.mpr fun dynamic => absurd dynamic static

end Idle

namespace Operand.Below

variable {a b : Operand}

theorem retained_right (below : a.Below K b) (retained : Retained K cs onto a)
    (within : b.Within K onto) : Retained K cs onto b := by
  cases a with
  | literal l =>
    cases b with
    | literal m => exact within
    | var w => cases below
  | var w =>
    have same : Operand.var w = b := by cases b <;> exact below
    exact same ▸ retained

theorem retained_left (below : a.Below K b) (retained : Retained K cs onto b)
    (within : a.Within K onto) : Retained K cs onto a := by
  cases b with
  | literal m =>
    cases a with
    | literal l => exact within
    | var w => cases below
  | var w =>
    have same : a = Operand.var w := by cases a <;> exact below
    exact same ▸ retained

end Operand.Below

/-- The values of a valuation on some variables, all others public. -/
def Valuation.inside (vars : VarSet) (σ : Valuation) : Valuation := fun v =>
  if v ∈ vars then σ v else .pub

theorem Valuation.inside_belongs {vars : VarSet} (belongs : ∀ v, (σ v).Belongs K) :
    ∀ v, (σ.inside vars v).Belongs K := by
  intro v
  unfold inside
  split
  · exact belongs v
  · trivial

theorem Retained.value_inside (retained : Retained K cs onto n) :
    n.value (σ.inside cs.vars) = n.value σ := by
  cases n with
  | literal l => rfl
  | var v => exact if_pos retained.1

theorem Flow.holds_of_values (left : c.lhs.value τ = c.lhs.value σ)
    (right : c.rhs.value τ = c.rhs.value σ) : Flow.holds K τ c = Flow.holds K σ c := by
  rw [Flow.holds, Flow.holds, left, right]

section Core

variable (lawful : K.Lawful) (based : cs.Over K) (solution : Solution K cs ρ)
include lawful based

theorem mem_tightest_entailedAmong :
    c ∈ (cs.entailedAmong K onto).tightest K ↔
      c ∈ (cs.consequences K onto).tightest K ∧ ¬ Idle K cs onto c := by
  rw [ConstraintSet.mem_tightest, ConstraintSet.mem_tightest,
    ConstraintSet.mem_entailedAmong_iff lawful based, not_idle_iff]
  constructor
  · intro tight
    obtain ⟨⟨member, left, right⟩, loosest⟩ := tight
    refine ⟨⟨member, ?_⟩, left, right⟩
    intro flow d other tighter
    obtain ⟨_, _, _, lower, upper⟩ := ConstraintSet.tighter_iff.mp tighter
    obtain ⟨withinLeft, withinRight, _⟩ := (ConstraintSet.mem_consequences lawful based).mp other
    refine loosest flow d ?_ tighter
    exact (ConstraintSet.mem_entailedAmong_iff lawful based).mpr
      ⟨other, lower.retained_right left withinLeft, upper.retained_left right withinRight⟩
  · intro tight
    obtain ⟨⟨member, loosest⟩, left, right⟩ := tight
    refine ⟨⟨member, left, right⟩, ?_⟩
    intro flow d other
    exact loosest flow d ((ConstraintSet.mem_entailedAmong_iff lawful based).mp other).1

include solution

/-- The tightest flows between retained operands say as much about these as all do. -/
theorem entails_backbone_iff (kept : ¬ Idle K cs onto c) :
    Entails K ((cs.consequences K onto).backbone K) c ↔
      Entails K ((cs.entailedAmong K onto).backbone K) c := by
  obtain ⟨left, right⟩ := not_idle_iff.mp kept
  constructor
  · intro entailed σ solved
    have flows := ConstraintSet.holds_of_backbone lawful (cs.entailedAmong_over lawful based) solved
    rw [← Flow.holds_of_values left.value_inside right.value_inside]
    refine entailed _ ⟨Valuation.inside_belongs solved.belongs, ?_⟩
    intro d member
    obtain ⟨tight, flow⟩ := ConstraintSet.mem_backbone.mp member
    by_cases idle : Idle K cs onto d
    · have inCore := ConstraintSet.backbone_subset_core d member
      have shape := idleShape_of_core lawful based solution inCore idle
      exact shape.holds lawful based solution flows (by simp [flow]) shape.lhs.value_inside
    · obtain ⟨leftD, rightD⟩ := not_idle_iff.mp idle
      rw [Flow.holds_of_values leftD.value_inside rightD.value_inside]
      exact solved.holds d (ConstraintSet.mem_backbone.mpr
        ⟨(mem_tightest_entailedAmong lawful based).mpr ⟨tight, idle⟩, flow⟩)
  · intro entailed σ solved
    apply entailed σ
    apply solved.subset
    intro d member
    obtain ⟨tight, flow⟩ := ConstraintSet.mem_backbone.mp member
    exact ConstraintSet.mem_backbone.mpr
      ⟨((mem_tightest_entailedAmong lawful based).mp tight).1, flow⟩

/-- Up to minimizing, a projection leaves out exactly the idle consequences. -/
theorem mem_core_entailedAmong :
    c ∈ (cs.entailedAmong K onto).core K ↔
      c ∈ (cs.consequences K onto).core K ∧ ¬ Idle K cs onto c := by
  rw [ConstraintSet.mem_core lawful (cs.entailedAmong_over lawful based),
    ConstraintSet.mem_core lawful (ConstraintSet.consequences_over lawful based),
    mem_tightest_entailedAmong lawful based]
  constructor
  · intro kept
    obtain ⟨⟨tight, active⟩, underivable⟩ := kept
    rw [← entails_backbone_iff lawful based solution active] at underivable
    exact ⟨⟨tight, underivable⟩, active⟩
  · intro kept
    obtain ⟨⟨tight, underivable⟩, active⟩ := kept
    rw [entails_backbone_iff lawful based solution active] at underivable
    exact ⟨⟨tight, active⟩, underivable⟩

end Core

end FlowTyping
