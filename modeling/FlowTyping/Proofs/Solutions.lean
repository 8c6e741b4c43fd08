import FlowTyping.Proofs.FlowRelation
import FlowTyping.Proofs.LatticeBounds

namespace FlowTyping

variable {K : LevelLattice Level} {cs part first second : ConstraintSet} {σ τ : Valuation}
variable {a b n : Operand} {v : TypeVar}

/-- A literal level belongs to the lattice; the marker and the variables always do. -/
def Operand.Known (K : LevelLattice Level) : Operand → Prop
  | .literal (.level l) => l ∈ K.elements
  | _ => True

instance (K : LevelLattice Level) : DecidablePred (Operand.Known K)
  | .literal (.level l) => inferInstanceAs (Decidable (l ∈ K.elements))
  | .literal .dyn => isTrue trivial
  | .var _ => isTrue trivial

theorem Operand.Known.literal {l : Literal} (known : (Operand.literal l).Known K) :
    (Value.ofLiteral l).Belongs K := by
  cases l with
  | dyn => trivial
  | level l => exact known

theorem Operand.Known.belongs (known : n.Known K) (belongs : ∀ v, (σ v).Belongs K) :
    (n.value σ).Belongs K := by
  cases n with
  | literal l => exact known.literal
  | var v => exact belongs v

namespace ConstraintSet

theorem over_iff : cs.Over K ↔ ∀ n, Mentioned cs n → n.Known K := by
  have listed : ∀ l : Level, .level l ∈ cs.literals ↔ Mentioned cs (.literal (.level l)) := by
    intro l
    simp only [literals, List.mem_flatMap, Mentioned, List.mem_filterMap]
    constructor
    · rintro ⟨c, member, side, among, shaped⟩
      refine ⟨c, member, ?_⟩
      rw [← Operand.literal?_eq_some.mp shaped]
      simpa [eq_comm] using among
    · rintro ⟨c, member, side⟩
      refine ⟨c, member, .literal (.level l), ?_, rfl⟩
      simpa [eq_comm] using side
  constructor
  · intro based n mentioned
    rcases n with (_ | l) | _
    · trivial
    · exact based l ((listed l).mpr mentioned)
    · trivial
  · intro known l member
    exact known _ ((listed l).mp member)

instance : Decidable (cs.Over K) :=
  decidable_of_iff (∀ n ∈ (FlowGraph.ofSet cs).nodes, n.Known K) (by
    simp only [FlowGraph.mem_nodes, over_iff])

theorem over_iff_sides : cs.Over K ↔ ∀ c ∈ cs, c.lhs.Known K ∧ c.rhs.Known K := by
  rw [over_iff]
  constructor
  · intro known c member
    exact ⟨known _ ⟨c, member, Or.inl rfl⟩, known _ ⟨c, member, Or.inr rfl⟩⟩
  · rintro known n ⟨c, member, rfl | rfl⟩
    · exact (known c member).1
    · exact (known c member).2

theorem Over.known {c : Flow} (based : cs.Over K) (member : c ∈ cs) :
    c.lhs.Known K ∧ c.rhs.Known K :=
  over_iff_sides.mp based c member

theorem Over.subset (based : cs.Over K) (included : ∀ c ∈ part, c ∈ cs) : part.Over K :=
  over_iff_sides.mpr fun c member => based.known (included c member)

theorem Over.union (left : first.Over K) (right : second.Over K) : (first.union second).Over K := by
  apply over_iff_sides.mpr
  intro c member
  rcases mem_union.mp member with there | there
  · exact left.known there
  · exact right.known there

theorem mem_vars_of_mem {c : Flow} (member : c ∈ cs) (listed : v ∈ c.vars) : v ∈ cs.vars :=
  SortedSet.mem_ofList.mpr (List.mem_flatMap.mpr ⟨c, member, listed⟩)

theorem mem_vars_union : v ∈ (first.union second).vars ↔ v ∈ first.vars ∨ v ∈ second.vars := by
  simp only [mem_vars, Mentioned, mem_union]
  constructor
  · rintro ⟨c, there | there, side⟩
    · exact Or.inl ⟨c, there, side⟩
    · exact Or.inr ⟨c, there, side⟩
  · rintro (⟨c, there, side⟩ | ⟨c, there, side⟩)
    · exact ⟨c, Or.inl there, side⟩
    · exact ⟨c, Or.inr there, side⟩

end ConstraintSet

theorem known_of_chain {along : Kind → Prop} (based : cs.Over K) (known : a.Known K)
    (chain : Relation.ReflTransGen (Joined cs along) a b) : b.Known K := by
  by_cases same : a = b
  · exact same ▸ known
  · exact ConstraintSet.over_iff.mp based b (mentioned_of_chain same chain).2

theorem Flows.known (based : cs.Over K) (flows : Flows cs a b) (known : b.Known K) :
    a.Known K := by
  by_cases same : a = b
  · exact same ▸ known
  · exact ConstraintSet.over_iff.mp based a (mentioned_of_chain same flows).1

/-- What is said of two operands is said of the sides of a constraint between them. -/
theorem Constraint.make_both {α : Type} [Ord α] [Std.TransOrd α] {a b : α} {p : α → Prop}
    (first : p a) (second : p b) (kind : Kind) :
    p (make a kind b).lhs ∧ p (make a kind b).rhs := by
  rcases make_sides a b kind with ⟨lhs, rhs⟩ | ⟨_, lhs, rhs⟩
  · rw [lhs, rhs]
    exact ⟨first, second⟩
  · rw [lhs, rhs]
    exact ⟨second, first⟩

@[simp] theorem Flow.holds_make (kind : Kind) :
    Flow.holds K σ (Constraint.make a kind b) = kind.holds K (a.value σ) (b.value σ) := by
  rw [Flow.holds, Constraint.make_kind]
  rcases Constraint.make_sides a b kind with ⟨lhs, rhs⟩ | ⟨rfl, lhs, rhs⟩
  · rw [lhs, rhs]
  · rw [lhs, rhs]
    exact Value.compatible_comm _ _

theorem Flow.holds_congr {c : Flow} (agree : ∀ v ∈ c.vars, σ v = τ v) :
    Flow.holds K σ c = Flow.holds K τ c := by
  have side : ∀ n : Operand, n = c.lhs ∨ n = c.rhs → n.value σ = n.value τ := by
    intro n among
    cases n with
    | literal l => rfl
    | var v =>
      apply agree
      simp only [Flow.vars, List.mem_filterMap, Operand.var?_eq_some]
      exact ⟨.var v, by simpa using among, rfl⟩
  rw [Flow.holds, Flow.holds, side c.lhs (Or.inl rfl), side c.rhs (Or.inr rfl)]

namespace Solution

theorem subset (solution : Solution K cs σ) (included : ∀ c ∈ part, c ∈ cs) :
    Solution K part σ :=
  ⟨solution.belongs, fun c member => solution.holds c (included c member)⟩

theorem union_iff :
    Solution K (first.union second) σ ↔ Solution K first σ ∧ Solution K second σ := by
  constructor
  · intro solution
    exact ⟨solution.subset fun c member => ConstraintSet.mem_union.mpr (Or.inl member),
      solution.subset fun c member => ConstraintSet.mem_union.mpr (Or.inr member)⟩
  · rintro ⟨left, right⟩
    refine ⟨left.belongs, fun c member => ?_⟩
    rcases ConstraintSet.mem_union.mp member with there | there
    · exact left.holds c there
    · exact right.holds c there

theorem congr (solution : Solution K cs σ) (belongs : ∀ v, (τ v).Belongs K)
    (agree : ∀ v ∈ cs.vars, τ v = σ v) : Solution K cs τ := by
  refine ⟨belongs, fun c member => ?_⟩
  rw [Flow.holds_congr fun v listed => agree v (ConstraintSet.mem_vars_of_mem member listed)]
  exact solution.holds c member

theorem le_of_flows (solution : Solution K cs σ) (lawful : K.Lawful) (based : cs.Over K)
    (known : b.Known K) (flows : Flows cs a b) :
    Value.le K (a.value σ) (b.value σ) = true := by
  induction flows with
  | refl => exact Value.le_refl lawful (known.belongs solution.belongs)
  | @tail middle last chain step ih =>
    obtain ⟨c, member, kind, rfl, rfl⟩ := step
    have middleKnown := (based.known member).1
    have held : Value.le K (c.lhs.value σ) (c.rhs.value σ) = true := by
      have holds := solution.holds c member
      rwa [Flow.holds, kind] at holds
    have startKnown : a.Known K := Flows.known based chain middleKnown
    exact Value.le_trans lawful (startKnown.belongs solution.belongs)
      (middleKnown.belongs solution.belongs) (known.belongs solution.belongs)
      (ih middleKnown) held

theorem dyn_of_spreads (solution : Solution K cs σ) (spreads : Spreads cs a b)
    (dynamic : a.value σ = .dyn) : b.value σ = .dyn := by
  induction spreads with
  | refl => exact dynamic
  | tail chain step ih =>
    obtain ⟨c, member, kind, rfl, rfl⟩ := step
    have holds := solution.holds c member
    rw [Flow.holds, ih] at holds
    cases same : c.kind with
    | flow =>
      rw [same] at holds
      exact Value.dyn_le_iff.mp holds
    | compatible => exact absurd same kind
    | implies =>
      rw [same] at holds
      exact Value.implies_iff.mp holds rfl

end Solution

/-- What a satisfiable set entails holds of all values once it does between different operands
that are not both literals. -/
theorem Entails.holds_of_open {c : Flow} (entailed : Entails K cs c) (lawful : K.Lawful)
    (solution : Solution K cs σ) (belongs : ∀ v, (τ v).Belongs K) (known : c.rhs.Known K)
    (told : c.lhs ≠ c.rhs → ¬ (c.lhs.isLiteral = true ∧ c.rhs.isLiteral = true) →
      Flow.holds K τ c = true) : Flow.holds K τ c = true := by
  by_cases same : c.lhs = c.rhs
  · rw [Flow.holds, same]
    exact Value.holds_self lawful c.kind (known.belongs belongs)
  · by_cases literals : c.lhs.isLiteral = true ∧ c.rhs.isLiteral = true
    · obtain ⟨l, lhs⟩ := Operand.isLiteral_iff.mp literals.1
      obtain ⟨m, rhs⟩ := Operand.isLiteral_iff.mp literals.2
      have held := entailed σ solution
      rw [Flow.holds, lhs, rhs] at held ⊢
      exact held
    · exact told same literals

end FlowTyping
