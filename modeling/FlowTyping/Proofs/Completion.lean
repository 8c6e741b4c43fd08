import FlowTyping.ConstraintSet.Checked
import FlowTyping.Proofs.BuiltDomain
import FlowTyping.Proofs.Solutions

namespace FlowTyping

variable {K : LevelLattice Level} {cs : ConstraintSet} {σ : Valuation} {c : Flow}

theorem FlowGraph.mem_derivedFlows :
    c ∈ (ofSet cs).derivedFlows ↔ c.kind = .flow ∧ c.lhs ≠ c.rhs ∧ Flows cs c.lhs c.rhs := by
  have flow : Kind.flow ≠ .compatible := by decide
  simp only [derivedFlows, List.mem_flatMap, List.mem_map]
  constructor
  · intro listed
    obtain ⟨a, _, found, behind, made⟩ := listed
    subst made
    rw [Constraint.make_kind, Constraint.make_lhs_of_ne flow, Constraint.make_rhs_of_ne flow]
    exact ⟨rfl, mem_successors.mp (List.mem_map.mpr ⟨found, behind, rfl⟩)⟩
  · intro derived
    obtain ⟨kind, apart, flows⟩ := derived
    obtain ⟨found, behind, same⟩ := List.mem_map.mp (mem_successors.mpr ⟨apart, flows⟩)
    refine ⟨c.lhs, mem_nodes.mpr (mentioned_of_chain apart flows).1, found, behind, ?_⟩
    rw [same, ← kind]
    exact Constraint.make_parts c

namespace ConstraintSet

theorem mem_close :
    c ∈ cs.close ↔ c.lhs ≠ c.rhs ∧
      (c.kind = .flow ∧ Flows cs c.lhs c.rhs ∨ c.kind ≠ .flow ∧ c ∈ cs) := by
  simp only [close, mem_ofList, List.mem_append, FlowGraph.mem_derivedFlows, List.mem_filter,
    Bool.and_eq_true, decide_eq_true_eq, Bool.not_eq_true', Constraint.isTrivial,
    decide_eq_false_iff_not]
  constructor
  · intro listed
    rcases listed with ⟨kind, apart, flows⟩ | ⟨member, kind, apart⟩
    · exact ⟨apart, Or.inl ⟨kind, flows⟩⟩
    · exact ⟨apart, Or.inr ⟨kind, member⟩⟩
  · intro listed
    obtain ⟨apart, ⟨kind, flows⟩ | ⟨kind, member⟩⟩ := listed
    · exact Or.inl ⟨kind, apart, flows⟩
    · exact Or.inr ⟨member, kind, apart⟩

theorem Over.close (based : cs.Over K) : cs.close.Over K := by
  apply over_iff_sides.mpr
  intro c member
  obtain ⟨apart, ⟨_, flows⟩ | ⟨_, there⟩⟩ := mem_close.mp member
  · obtain ⟨left, right⟩ := mentioned_of_chain apart flows
    exact ⟨over_iff.mp based _ left, over_iff.mp based _ right⟩
  · exact based.known there

theorem close_plain (plain : ∀ c ∈ cs, c.kind ≠ .implies) : ∀ c ∈ cs.close, c.kind ≠ .implies := by
  intro c member
  obtain ⟨_, ⟨flow, _⟩ | ⟨_, there⟩⟩ := mem_close.mp member
  · rw [flow]
    decide
  · exact plain c there

theorem close_solution_iff (lawful : K.Lawful) (based : cs.Over K) :
    Solution K cs.close σ ↔ Solution K cs σ := by
  constructor
  · intro solution
    refine ⟨solution.belongs, fun c member => ?_⟩
    obtain ⟨left, _⟩ := based.known member
    by_cases same : c.lhs = c.rhs
    · rw [Flow.holds, ← same]
      exact Value.holds_self lawful c.kind (left.belongs solution.belongs)
    · apply solution.holds c
      apply mem_close.mpr
      refine ⟨same, ?_⟩
      by_cases kind : c.kind = .flow
      · exact Or.inl ⟨kind, .of_mem member kind⟩
      · exact Or.inr ⟨kind, member⟩
  · intro solution
    refine ⟨solution.belongs, fun c member => ?_⟩
    obtain ⟨apart, ⟨kind, flows⟩ | ⟨_, there⟩⟩ := mem_close.mp member
    · have known : c.rhs.Known K := over_iff.mp based _ (mentioned_of_chain apart flows).2
      rw [Flow.holds, kind]
      exact solution.le_of_flows lawful based known flows
    · exact solution.holds c there

theorem mem_close_of_flow (kind : c.kind = .flow) :
    c ∈ cs.close ↔ c.lhs ≠ c.rhs ∧ Flows cs c.lhs c.rhs := by
  simp [mem_close, kind]

theorem mem_close_of_ne (other : c.kind ≠ .flow) :
    c ∈ cs.close ↔ c ∈ cs ∧ c.isTrivial = false := by
  simp [mem_close, other, Constraint.isTrivial, and_comm]

theorem make_mem_close {a b : Operand} :
    Constraint.make a .flow b ∈ cs.close ↔ a ≠ b ∧ Flows cs a b := by
  have flow : Kind.flow ≠ .compatible := by decide
  rw [mem_close_of_flow (Constraint.make_kind a b _), Constraint.make_lhs_of_ne flow,
    Constraint.make_rhs_of_ne flow]

/-- A flow of a completed set stands for the flows along a chain, at least one. -/
theorem make_mem_close_iff_transGen {a b : Operand} :
    Constraint.make a .flow b ∈ cs.close ↔
      a ≠ b ∧ Relation.TransGen (Joined cs (· = .flow)) a b := by
  rw [make_mem_close]
  constructor
  · intro derived
    obtain ⟨apart, flows⟩ := derived
    rcases Relation.reflTransGen_iff_eq_or_transGen.mp flows with same | chain
    · exact absurd same.symm apart
    · exact ⟨apart, chain⟩
  · intro derived
    exact ⟨derived.1, derived.2.to_reflTransGen⟩

theorem flows_close_iff {a b : Operand} : Flows cs.close a b ↔ Flows cs a b := by
  constructor
  · intro chain
    induction chain with
    | refl => exact .refl
    | tail _ joined ih =>
      obtain ⟨c, member, kind, rfl, rfl⟩ := joined
      obtain ⟨_, ⟨_, flows⟩ | ⟨other, _⟩⟩ := mem_close.mp member
      · exact ih.trans flows
      · exact absurd kind other
  · intro flows
    by_cases same : a = b
    · exact same ▸ .refl
    · have flow : Kind.flow ≠ .compatible := by decide
      exact .single ⟨.make a .flow b, make_mem_close.mpr ⟨same, flows⟩, Constraint.make_kind a b _,
        Constraint.make_lhs_of_ne flow a b, Constraint.make_rhs_of_ne flow a b⟩

theorem close_close : cs.close.close = cs.close := by
  apply ext_mem
  intro c
  by_cases kind : c.kind = .flow
  · rw [mem_close_of_flow kind, mem_close_of_flow kind, flows_close_iff]
  · rw [mem_close_of_ne kind, mem_close_of_ne kind, and_assoc, and_self]

end ConstraintSet

/-- The least level of a node depends only on what flows into it. -/
theorem Checked.leastLevel_congr (domain : Domain) {ds : ConstraintSet} {n : Operand}
    (same : ∀ a, Flows cs a n ↔ Flows ds a n) :
    leastLevel domain (FlowGraph.ofSet cs) n = leastLevel domain (FlowGraph.ofSet ds) n := by
  unfold leastLevel FlowGraph.lowerLiterals
  rw [FlowGraph.predecessors_congr same]

/-- Completion is transitive closure and nothing more. The flows of a completed set are the
chains of flows between different operands, its other constraints are those of the set that are
not trivial, completing it again changes nothing, its solutions are those of the set, and every
operand has the bounds and the least level that it has in the set. -/
theorem completion_is_transitive_closure {domain : Domain} (built : domain.Built)
    (cs : ConstraintSet) :
    (∀ a b, Constraint.make a .flow b ∈ cs.close ↔
        a ≠ b ∧ Relation.TransGen (Joined cs (· = .flow)) a b) ∧
      (∀ c : Flow, c.kind ≠ .flow → (c ∈ cs.close ↔ c ∈ cs ∧ c.isTrivial = false)) ∧
      cs.close.close = cs.close ∧
      (cs.Over domain.lattice →
        ∀ σ, Solution domain.lattice cs.close σ ↔ Solution domain.lattice cs σ) ∧
      ∀ n : Operand,
        (FlowGraph.ofSet cs.close).predecessors n = (FlowGraph.ofSet cs).predecessors n ∧
        (∀ m, m ∈ ((FlowGraph.ofSet cs.close).successors n).map Found.node ↔
          m ∈ ((FlowGraph.ofSet cs).successors n).map Found.node) ∧
        Checked.leastLevel domain (FlowGraph.ofSet cs.close) n =
          Checked.leastLevel domain (FlowGraph.ofSet cs) n := by
  refine ⟨fun a b => ConstraintSet.make_mem_close_iff_transGen, fun c => ConstraintSet.mem_close_of_ne,
    ConstraintSet.close_close, ?_, ?_⟩
  · intro based σ
    exact ConstraintSet.close_solution_iff built.lawful based
  · intro n
    have same : ∀ a, Flows cs.close a n ↔ Flows cs a n := fun _ => ConstraintSet.flows_close_iff
    refine ⟨FlowGraph.predecessors_congr same, ?_, Checked.leastLevel_congr domain same⟩
    intro m
    rw [FlowGraph.mem_successors, FlowGraph.mem_successors, ConstraintSet.flows_close_iff]

/-- A circle through a level, with constraints that say nothing beside it. -/
def circleSample : ConstraintSet :=
  let x (index : Int) : Operand := .var ⟨1, .fresh, index⟩
  let low : Operand := .literal (.level .low)
  .ofList [.make (x 0) .flow low, .make low .flow (x 1), .make (x 1) .flow (x 0),
    .make (x 0) .flow (x 0), .make (x 2) .compatible (x 2), .make (x 1) .implies (x 2)]

/-- Around the circle every operand flows into every other, and none into itself. -/
theorem completion_is_transitive_closure_circle :
    let x (index : Int) : Operand := .var ⟨1, .fresh, index⟩
    Domain.twoPoint.Built ∧ circleSample.Over Domain.twoPoint.lattice ∧
      Constraint.make (x 0) .flow (x 1) ∈ circleSample.close ∧
      Constraint.make (x 0) .flow (x 0) ∉ circleSample.close ∧
      Constraint.make (x 1) .implies (x 2) ∈ circleSample.close ∧
      Constraint.make (x 2) .compatible (x 2) ∉ circleSample.close ∧
      circleSample.close.close = circleSample.close ∧
      ∀ σ, Solution Domain.twoPoint.lattice circleSample.close σ ↔
        Solution Domain.twoPoint.lattice circleSample σ := by
  intro x
  have based : circleSample.Over Domain.twoPoint.lattice := by decide +kernel
  obtain ⟨flows, others, again, solutions, _⟩ :=
    completion_is_transitive_closure .twoPoint circleSample
  have kept := others (.make (x 1) .implies (x 2)) (by decide)
  have dropped := others (.make (x 2) .compatible (x 2)) (by decide)
  refine ⟨.twoPoint, based, (flows (x 0) (x 1)).mpr ⟨by decide, ?_⟩, ?_,
    kept.mpr (by decide +kernel), ?_, again, solutions based⟩
  · have first : Joined circleSample (· = .flow) (x 0) (.literal (.level .low)) :=
      ⟨.make (x 0) .flow (.literal (.level .low)), by decide +kernel, rfl, rfl, rfl⟩
    have second : Joined circleSample (· = .flow) (.literal (.level .low)) (x 1) :=
      ⟨.make (.literal (.level .low)) .flow (x 1), by decide +kernel, rfl, rfl, rfl⟩
    exact .tail (.single first) second
  · intro listed
    exact ((flows (x 0) (x 0)).mp listed).1 rfl
  · intro listed
    have apart := (dropped.mp listed).2
    revert apart
    decide

end FlowTyping
