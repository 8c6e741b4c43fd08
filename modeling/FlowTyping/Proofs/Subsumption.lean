import FlowTyping.Proofs.CanonicalProjection

namespace FlowTyping

variable {K : LevelLattice Level} {a b cs : ConstraintSet} {σ : Valuation}
variable {onto : VarSet} {n : Operand} {c : Flow}

theorem Entails.of_mem (member : c ∈ cs) : Entails K cs c := by
  intro σ solution
  exact solution.holds c member

theorem Retained.within_inter (retained : Retained K cs onto n) :
    n.Within K (onto.inter cs.vars) := by
  cases n with
  | literal l => exact retained
  | var v => exact SortedSet.mem_inter.mpr retained.symm

namespace ConstraintSet

/-- Between operands within some variables, one set entails all that another entails. -/
def EntailsAll (K : LevelLattice Level) (a b : ConstraintSet) (onto : VarSet) : Prop :=
  ∀ c : Flow, c.lhs.Within K onto → c.rhs.Within K onto → Entails K b c → Entails K a c

theorem EntailsAll.inter (covers : EntailsAll K a b onto) :
    EntailsAll K a b (onto.inter b.vars) := by
  have inside : ∀ v ∈ onto.inter b.vars, v ∈ onto := fun v member =>
    (SortedSet.mem_inter.mp member).1
  intro c left right
  exact covers c (left.mono inside) (right.mono inside)

theorem Over.within_vars (based : cs.Over K) (member : c ∈ cs) :
    c.lhs.Within K cs.vars ∧ c.rhs.Within K cs.vars := by
  have inside : ∀ n, Mentioned cs n → n.Within K cs.vars := by
    intro n mentioned
    cases n with
    | literal l => exact over_iff.mp based _ mentioned
    | var v => exact mem_vars.mpr mentioned
  exact ⟨inside _ ⟨c, member, Or.inl rfl⟩, inside _ ⟨c, member, Or.inr rfl⟩⟩

section Comparison

variable (lawful : K.Lawful) (overB : b.Over K)
include lawful overB

/-- A set whose solutions solve a projection entails all that the projected set entails within
the variables of the projection. -/
theorem entailsAll_of_solutions
    (solves : ∀ σ, Solution K a σ → Solution K (b.project K onto) σ) : EntailsAll K a b onto := by
  intro c left right entailed σ solution
  exact (project_entails_iff lawful overB left right).mpr entailed σ (solves σ solution)

/-- To solve a projection it is enough to entail what the projected set entails within those
variables of the projection that it mentions. -/
theorem project_solution_of_entailsAll (covers : EntailsAll K a b (onto.inter b.vars))
    (solution : Solution K a σ) : Solution K (b.project K onto) σ := by
  refine ⟨solution.belongs, ?_⟩
  intro c member
  obtain ⟨left, right⟩ := project_retained lawful overB c member
  have entailed : Entails K b c :=
    (project_entails_iff lawful overB left.within right.within).mp (.of_mem member)
  exact covers c left.within_inter right.within_inter entailed σ solution

/-- Among the variables of a projection those that the projected set does not mention may be
left out of the comparison. -/
theorem entailsAll_inter_iff : EntailsAll K a b (onto.inter b.vars) ↔ EntailsAll K a b onto := by
  constructor
  · intro covers
    apply entailsAll_of_solutions lawful overB
    intro σ solution
    exact project_solution_of_entailsAll lawful overB covers solution
  · exact EntailsAll.inter

variable (overA : a.Over K)
include overA

theorem implies_project_iff :
    a.implies K (b.project K onto) = true ↔ EntailsAll K a b onto := by
  rw [implies_iff lawful overA (project_over lawful overB)]
  constructor
  · exact entailsAll_of_solutions lawful overB
  · intro covers σ solution
    exact project_solution_of_entailsAll lawful overB covers.inter solution

theorem project_implies_iff :
    (b.project K a.vars).implies K a = true ↔ EntailsAll K b a a.vars := by
  rw [implies_iff lawful (project_over lawful overB) overA]
  constructor
  · intro solves c left right entailed
    apply (project_entails_iff lawful overB left right).mp
    intro σ solution
    exact entailed σ (solves σ solution)
  · intro covers σ solution
    refine ⟨solution.belongs, ?_⟩
    intro c member
    obtain ⟨left, right⟩ := overA.within_vars member
    have entailed := covers c left right (.of_mem member)
    exact (project_entails_iff lawful overB left right).mpr entailed σ solution

theorem subsumes_iff :
    a.subsumes K b = true ↔ EntailsAll K a b (a.vars.inter b.vars) := by
  have overProjected : (a.project K (a.vars.inter b.vars)).Over K := project_over lawful overA
  rw [subsumes, implies_project_iff lawful overB overProjected]
  constructor
  · intro covers c left right entailed
    exact (project_entails_iff lawful overA left right).mp (covers c left right entailed)
  · intro covers c left right entailed
    exact (project_entails_iff lawful overA left right).mpr (covers c left right entailed)

theorem equivalent_project_iff :
    a.equivalent K (b.project K a.vars) = true ↔
      EntailsAll K a b a.vars ∧ EntailsAll K b a a.vars := by
  rw [equivalent, Bool.and_eq_true, implies_project_iff lawful overB overA,
    project_implies_iff lawful overB overA]

/-- The common variables are compared through both projections, the others of the summary
through one implication: together that is one equivalence. -/
theorem minimallySubsumes_eq : a.minimallySubsumes K b = a.equivalent K (b.project K a.vars) := by
  apply Bool.eq_iff_iff.mpr
  rw [equivalent_project_iff lawful overB overA, minimallySubsumes, Bool.and_eq_true,
    subsumes_iff lawful overB overA, project_implies_iff lawful overB overA,
    entailsAll_inter_iff lawful overB]

end Comparison

end ConstraintSet

namespace Checked

variable {domain : Domain} (built : domain.Built) (overA : a.Over domain.lattice)
variable (overB : b.Over domain.lattice)
include built overA overB

theorem subsumes_eq : subsumes domain a b = .ok (a.subsumes domain.lattice b) := by
  have overLeft : (a.project domain.lattice (a.vars.inter b.vars)).Over domain.lattice :=
    ConstraintSet.project_over built.lawful overA
  have overRight : (b.project domain.lattice (a.vars.inter b.vars)).Over domain.lattice :=
    ConstraintSet.project_over built.lawful overB
  rw [subsumes, project_eq built overA, project_eq built overB, ConstraintSet.subsumes]
  simp only [bind, Except.bind, implies_eq built overLeft overRight]

theorem minimallySubsumes_eq :
    minimallySubsumes domain a b = .ok (a.minimallySubsumes domain.lattice b) := by
  have overProjected : (b.project domain.lattice a.vars).Over domain.lattice :=
    ConstraintSet.project_over built.lawful overB
  rw [minimallySubsumes, subsumes_eq built overA overB, project_eq built overB,
    ConstraintSet.minimallySubsumes]
  simp only [bind, Except.bind, implies_eq built overProjected overA, both_eq]

end Checked

/-- Subsumption and principal summaries. One set subsumes another exactly when it entails, of
the constraints between their common variables and the literals, all that the other entails.
It subsumes the other minimally exactly when it is equivalent to the projection of the other
onto its own variables, which is when both entail the same between these and the literals. -/
theorem subsumption_compares_consequences {domain : Domain} (built : domain.Built)
    (overA : a.Over domain.lattice) (overB : b.Over domain.lattice) :
    (∃ answer, Checked.subsumes domain a b = .ok answer ∧
      (answer = true ↔ a.EntailsAll domain.lattice b (a.vars.inter b.vars))) ∧
    ∃ answer projected, Checked.minimallySubsumes domain a b = .ok answer ∧
      Checked.project domain b a.vars = .ok projected ∧
      Checked.equivalent domain a projected = .ok answer ∧
      (answer = true ↔
        a.EntailsAll domain.lattice b a.vars ∧ b.EntailsAll domain.lattice a a.vars) := by
  have lawful := built.lawful
  have overProjected : (b.project domain.lattice a.vars).Over domain.lattice :=
    ConstraintSet.project_over lawful overB
  constructor
  · exact ⟨_, Checked.subsumes_eq built overA overB, ConstraintSet.subsumes_iff lawful overB overA⟩
  · refine ⟨_, _, Checked.minimallySubsumes_eq built overA overB,
      Checked.project_eq built overB a.vars, ?_, ?_⟩
    · rw [Checked.equivalent_eq built overA overProjected,
        ConstraintSet.minimallySubsumes_eq lawful overB overA]
    · rw [ConstraintSet.minimallySubsumes_eq lawful overB overA,
        ConstraintSet.equivalent_project_iff lawful overB overA]

/-- A variable that implies another, into which a high source flows. -/
def guardedSample : ConstraintSet :=
  let x (index : Int) : Operand := .var ⟨1, .fresh, index⟩
  .ofList [.make (.literal (.level .high)) .flow (x 1), .make (x 0) .implies (x 1)]

def boundedSample (level : Level) : ConstraintSet :=
  .ofList [.make (.var ⟨1, .fresh, 0⟩) .flow (.literal (.level level))]

/-- That the variable is not dynamic is all that the implication says about it, and it is what
the high bound says; the low bound says more. -/
theorem subsumption_compares_consequences_guarded :
    let K := Domain.twoPoint.lattice
    let high := boundedSample .high
    let low := boundedSample .low
    Domain.twoPoint.Built ∧ high.Over K ∧ low.Over K ∧ guardedSample.Over K ∧
      high.EntailsAll K guardedSample high.vars ∧ guardedSample.EntailsAll K high high.vars ∧
      low.EntailsAll K guardedSample (low.vars.inter guardedSample.vars) ∧
      ¬ (low.EntailsAll K guardedSample low.vars ∧ guardedSample.EntailsAll K low low.vars) := by
  intro K high low
  have built := Domain.Built.twoPoint
  have overHigh : high.Over K := by decide +kernel
  have overLow : low.Over K := by decide +kernel
  have overGuarded : guardedSample.Over K := by decide +kernel
  obtain ⟨_, _, _, computed, _, _, same⟩ :=
    subsumption_compares_consequences built overHigh overGuarded
  obtain ⟨⟨_, asked, included⟩, _, _, computed', _, _, same'⟩ :=
    subsumption_compares_consequences built overLow overGuarded
  have highEqual := Checked.minimallySubsumes_eq built overHigh overGuarded
  have lowLess := Checked.subsumes_eq built overLow overGuarded
  have lowUnequal := Checked.minimallySubsumes_eq built overLow overGuarded
  rw [computed, Except.ok.injEq] at highEqual
  rw [asked, Except.ok.injEq] at lowLess
  rw [computed', Except.ok.injEq] at lowUnequal
  rw [highEqual] at same
  rw [lowLess] at included
  rw [lowUnequal] at same'
  have both := same.mp (by decide +kernel)
  refine ⟨built, overHigh, overLow, overGuarded, both.1, both.2, included.mp (by decide +kernel), ?_⟩
  rw [← same']
  decide +kernel

end FlowTyping
