import FlowTyping.Proofs.LeastAssignment
import FlowTyping.Proofs.Minimization

namespace FlowTyping

variable {K : LevelLattice Level} {cs part kept : ConstraintSet} {σ : Valuation}
variable {c : Flow} {v : TypeVar}

theorem Entails.mono (entailed : Entails K part c) (included : ∀ d ∈ part, d ∈ cs) :
    Entails K cs c := by
  intro σ solution
  exact entailed σ (solution.subset included)

namespace ConstraintSet

theorem proper_subset : ∀ c ∈ cs.proper, c ∈ cs := by
  intro c member
  exact (mem_filter.mp member).1

theorem ne_of_proper (member : c ∈ cs.proper) : c.lhs ≠ c.rhs := by
  have nontrivial := (mem_filter.mp member).2
  simpa [Constraint.isTrivial] using nontrivial

theorem minimize_over (based : cs.Over K) : (cs.minimize K).Over K :=
  based.subset minimize_subset

/-- What is kept besides a constraint stood beside it when it came up. -/
theorem mem_standing_of_mem_erase :
    ∀ d ∈ (cs.minimize K).erase c, d ∈ standing (cs.minimize K) cs.proper c := by
  intro d other
  obtain ⟨member, apart⟩ := mem_erase.mp other
  apply mem_standing.mpr
  cases place : Constraint.order d c with
  | lt => exact Or.inl ⟨member, rfl⟩
  | eq => exact absurd (Std.LawfulEqCmp.eq_of_compare place) apart
  | gt => exact Or.inr ⟨minimize_proper d member, Std.OrientedCmp.lt_of_gt place⟩

theorem not_entails_erase (lawful : K.Lawful) (based : cs.Over K) (member : c ∈ cs.minimize K) :
    ¬ Entails K ((cs.minimize K).erase c) c := by
  intro entailed
  have free := (mem_minimize_iff.mp member).2
  have beside : (standing (cs.minimize K) cs.proper c).Over K :=
    standing_over (minimize_over based) (based.subset proper_subset)
  obtain ⟨left, right⟩ := based.known (minimize_subset c member)
  apply free
  apply (Closure.entails_iff lawful beside left right).mpr
  exact entailed.mono mem_standing_of_mem_erase

theorem erase_entails_eq_false (lawful : K.Lawful) (based : cs.Over K)
    (member : c ∈ cs.minimize K) : ((cs.minimize K).erase c).entails K c = false := by
  have others : ((cs.minimize K).erase c).Over K :=
    (minimize_over based).subset fun d there => (mem_erase.mp there).1
  obtain ⟨left, right⟩ := based.known (minimize_subset c member)
  apply Bool.eq_false_iff.mpr
  intro answer
  exact not_entails_erase lawful based member
    ((Closure.entails_iff lawful others left right).mp answer)

/-- A round that asks about nothing derivable drops nothing. -/
theorem dropDerivable_eq_self {asked : List Flow}
    (free : ∀ c ∈ asked, (kept.erase c).entails K c = false) :
    kept.dropDerivable K asked = kept := by
  induction asked with
  | nil => rfl
  | cons first rest ih =>
    have stays : kept.settle K first = kept := by
      simp [settle, free first (by simp)]
    rw [dropDerivable_cons, stays]
    exact ih fun c later => free c (List.mem_cons_of_mem first later)

theorem minimize_minimize (lawful : K.Lawful) (based : cs.Over K) :
    (cs.minimize K).minimize K = cs.minimize K := by
  have apart : ∀ c ∈ cs.minimize K, c.lhs ≠ c.rhs := fun c member =>
    ne_of_proper (minimize_proper c member)
  show (cs.minimize K).proper.dropDerivable K (cs.minimize K).proper.toList = _
  rw [proper_eq apart]
  apply dropDerivable_eq_self
  intro c member
  exact erase_entails_eq_false lawful based member

theorem minimize_isSat (lawful : K.Lawful) (based : cs.Over K) :
    (cs.minimize K).isSat K = cs.isSat K := by
  apply Bool.eq_iff_iff.mpr
  simp only [isSat, Closure.isSat_iff lawful (minimize_over based), Closure.isSat_iff lawful based,
    minimize_solution_iff lawful based]

theorem isSat_erase (lawful : K.Lawful) (based : cs.Over K) (member : c ∈ cs.minimize K) :
    ((cs.minimize K).erase c).isSat K = true := by
  have others : ((cs.minimize K).erase c).Over K :=
    (minimize_over based).subset fun d there => (mem_erase.mp there).1
  apply Classical.byContradiction
  intro unsat
  apply not_entails_erase lawful based member
  intro σ solution
  exact absurd ((Closure.isSat_iff lawful others).mpr ⟨σ, solution⟩) unsat

end ConstraintSet

/-- Sets with the same solutions bound every variable alike, by whatever chains they do. -/
theorem leastLevel?_congr (lawful : K.Lawful) (based : cs.Over K) (overPart : part.Over K)
    (sat : cs.isSat K = true) (same : ∀ σ, Solution K part σ ↔ Solution K cs σ) :
    (Closure.ofSet K part).leastLevel? (.var v) = (Closure.ofSet K cs).leastLevel? (.var v) := by
  obtain ⟨σ, solution⟩ := (Closure.isSat_iff lawful based).mp sat
  have satPart : part.isSat K = true :=
    (Closure.isSat_iff lawful overPart).mpr ⟨σ, (same σ).mpr solution⟩
  rw [leastLevel?_eq ((Closure.isSat_iff_consistent lawful overPart).mp satPart),
    leastLevel?_eq ((Closure.isSat_iff_consistent lawful based).mp sat)]
  apply congrArg Value.level?
  apply leastValuation_eq lawful overPart based ((same σ).mpr solution)
  · intro τ solved
    exact ⟨τ, (same τ).mp solved, rfl⟩
  · intro τ solved
    exact ⟨τ, (same τ).mpr solved, rfl⟩

/-- Minimization keeps a part of a set with the same solutions, in which nothing follows from
the rest; of a set without solutions it keeps a core that each constraint taken away makes
satisfiable. A second minimization changes nothing, and the bounds of the variables stay. -/
theorem minimization_irredundant {domain : Domain} (built : domain.Built)
    (based : cs.Over domain.lattice) :
    ∃ minimal, Checked.minimize domain cs = .ok minimal ∧
      (∀ c ∈ minimal, c ∈ cs) ∧
      (∀ σ, Solution domain.lattice minimal σ ↔ Solution domain.lattice cs σ) ∧
      (∀ c ∈ minimal, Checked.entails domain (minimal.erase c) c = .ok false ∧
        ¬ Entails domain.lattice (minimal.erase c) c) ∧
      (cs.isSat domain.lattice = false → minimal.isSat domain.lattice = false ∧
        ∀ c ∈ minimal, (minimal.erase c).isSat domain.lattice = true) ∧
      Checked.minimize domain minimal = .ok minimal ∧
      (cs.isSat domain.lattice = true → ∀ v, ∃ bound,
        Checked.leastLevel domain (FlowGraph.ofSet minimal) (.var v) = .ok bound ∧
          Checked.leastLevel domain (FlowGraph.ofSet cs) (.var v) = .ok bound) := by
  have lawful := built.lawful
  have overMinimal := ConstraintSet.minimize_over based
  have solutions : ∀ σ, Solution domain.lattice (cs.minimize domain.lattice) σ ↔
      Solution domain.lattice cs σ := fun _ => ConstraintSet.minimize_solution_iff lawful based
  refine ⟨_, Checked.minimize_eq built based, ConstraintSet.minimize_subset, solutions, ?_, ?_, ?_,
    ?_⟩
  · intro c member
    have others : ((cs.minimize domain.lattice).erase c).Over domain.lattice :=
      overMinimal.subset fun d there => (ConstraintSet.mem_erase.mp there).1
    obtain ⟨left, right⟩ := overMinimal.known member
    refine ⟨?_, ConstraintSet.not_entails_erase lawful based member⟩
    rw [Checked.entails_eq built others left right]
    exact congrArg Except.ok (ConstraintSet.erase_entails_eq_false lawful based member)
  · intro unsat
    refine ⟨(ConstraintSet.minimize_isSat lawful based).trans unsat, ?_⟩
    intro c member
    exact ConstraintSet.isSat_erase lawful based member
  · rw [Checked.minimize_eq built overMinimal, ConstraintSet.minimize_minimize lawful based]
  · intro sat v
    have known : (Operand.var v).Known domain.lattice := trivial
    refine ⟨_, ?_, Checked.leastLevel_eq built based known⟩
    rw [Checked.leastLevel_eq built overMinimal known,
      leastLevel?_congr lawful based overMinimal sat solutions]

/-- A high source flows into a low sink along two ways, one of them around a cycle. -/
def leakSample : ConstraintSet :=
  let x (index : Int) : Operand := .var ⟨1, .fresh, index⟩
  .ofList [.make (.literal (.level .high)) .flow (x 0), .make (x 0) .flow (x 1),
    .make (x 1) .flow (x 0), .make (x 0) .flow (.literal (.level .low)),
    .make (x 1) .flow (.literal (.level .low)), .make (x 0) .compatible (x 1)]

/-- Of the two ways one is left, and it leaks no more once a part of it is taken away. -/
theorem minimization_irredundant_leak :
    Domain.twoPoint.Built ∧ leakSample.Over Domain.twoPoint.lattice ∧
      leakSample.isSat Domain.twoPoint.lattice = false ∧
      ∃ minimal, Checked.minimize Domain.twoPoint leakSample = .ok minimal ∧
        minimal.size = 3 ∧ minimal.isSat Domain.twoPoint.lattice = false ∧
        ∀ c ∈ minimal, (minimal.erase c).isSat Domain.twoPoint.lattice = true := by
  have built := Domain.Built.twoPoint
  have based : leakSample.Over Domain.twoPoint.lattice := by decide +kernel
  have unsat : leakSample.isSat Domain.twoPoint.lattice = false := by decide +kernel
  obtain ⟨minimal, computed, _, _, _, core, _⟩ := minimization_irredundant built based
  obtain rfl := Except.ok.inj ((Checked.minimize_eq built based).symm.trans computed)
  obtain ⟨still, repaired⟩ := core unsat
  exact ⟨built, based, unsat, _, computed, by decide +kernel, still, repaired⟩

end FlowTyping
