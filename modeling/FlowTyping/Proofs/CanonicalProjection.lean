import FlowTyping.Proofs.IdleMinimization
import FlowTyping.Proofs.Implication
import FlowTyping.Proofs.LeastAssignment

namespace FlowTyping

variable {K : LevelLattice Level} {a b cs : ConstraintSet} {σ τ : Valuation}
variable {onto inner : VarSet} {n : Operand} {c : Flow} {v : TypeVar}

theorem Operand.Within.mono (within : n.Within K inner) (included : ∀ v ∈ inner, v ∈ onto) :
    n.Within K onto := by
  cases n with
  | literal l => exact within
  | var v => exact included v within

namespace ConstraintSet

/-- Only a set without solutions entails that the marker is compatible with a level. -/
theorem entails_contradiction_iff (lawful : K.Lawful) (based : cs.Over K) :
    Entails K cs (.make (.literal .dyn) .compatible (.literal (.level K.bottom))) ↔
      ¬ cs.isSat K = true := by
  constructor
  · intro entailed sat
    obtain ⟨σ, solution⟩ := (Closure.isSat_iff lawful based).mp sat
    have held := entailed σ solution
    rw [Flow.holds_make] at held
    cases held
  · intro unsat σ solution
    exact absurd ((Closure.isSat_iff lawful based).mpr ⟨σ, solution⟩) unsat

section Projected

variable (lawful : K.Lawful) (based : cs.Over K)
include lawful based

theorem project_eq_condense (sat : cs.isSat K = true) :
    cs.project K onto = (cs.consequences K onto).condense K := by
  obtain ⟨ρ, solution⟩ := (Closure.isSat_iff lawful based).mp sat
  rw [project_of_sat sat, condense_consequences lawful based solution]

theorem project_solution (solution : Solution K cs σ) : Solution K (cs.project K onto) σ :=
  ⟨solution.belongs, project_holds lawful based solution fun _ _ => rfl⟩

/-- A projection entails what the set entails between operands within its variables. -/
theorem project_entails_iff (left : c.lhs.Within K onto) (right : c.rhs.Within K onto) :
    Entails K (cs.project K onto) c ↔ Entails K cs c := by
  constructor
  · intro entailed σ solution
    exact entailed σ (project_solution lawful based solution)
  · intro entailed τ solution
    have sat := isSat_of_project solution
    obtain ⟨σ, solved⟩ := (Closure.isSat_iff lawful based).mp sat
    apply entailed.holds_of_open lawful solved solution.belongs right.known
    intro apart mixed
    rw [project_eq_condense lawful based sat,
      condense_solution_iff lawful (consequences_over lawful based)] at solution
    exact solution.holds c
      ((mem_consequences lawful based).mpr ⟨left, right, apart, mixed, entailed⟩)

theorem project_isSat : (cs.project K onto).isSat K = cs.isSat K := by
  have overProjected : (cs.project K onto).Over K := project_over lawful based
  apply Bool.eq_iff_iff.mpr
  constructor
  · intro sat
    obtain ⟨τ, solution⟩ := (Closure.isSat_iff lawful overProjected).mp sat
    exact isSat_of_project solution
  · intro sat
    obtain ⟨σ, solution⟩ := (Closure.isSat_iff lawful based).mp sat
    exact (Closure.isSat_iff lawful overProjected).mpr ⟨σ, project_solution lawful based solution⟩

theorem leastValuation_project (solution : Solution K cs σ) (member : v ∈ onto) :
    leastValuation K (cs.project K onto) .none v = leastValuation K cs .none v := by
  apply leastValuation_eq_of_bounds lawful (project_over lawful based) based
    (project_solution lawful based solution) solution
  intro l known
  have lower : (Operand.literal l).Within K onto := known
  have retained : (Operand.var v).Within K onto := member
  obtain ⟨left, right⟩ := Constraint.make_both lower retained .flow
  exact project_entails_iff lawful based left right

end Projected

theorem leastValuation_free (lawful : K.Lawful) (based : cs.Over K) (solution : Solution K cs σ)
    (free : v ∉ cs.vars) : leastValuation K cs .none v = .pub := by
  have public' : (Value.pub).Belongs K := trivial
  have below := (solution.update free public').leastValuation_le lawful based v
  rw [Function.update_self] at below
  exact Value.le_pub_iff.mp below

section Agreement

variable (lawful : K.Lawful) (overA : a.Over K) (overB : b.Over K)
include lawful overA overB

/-- Sets that entail the same between operands within some variables have the same
projection. -/
theorem project_congr
    (agree : ∀ c : Flow, c.lhs.Within K onto → c.rhs.Within K onto →
      (Entails K a c ↔ Entails K b c)) :
    a.project K onto = b.project K onto := by
  have satisfiable : a.isSat K = true ↔ b.isSat K = true := by
    have marker : Operand.Within K onto (.literal .dyn) := trivial
    have bottom : Operand.Within K onto (.literal (.level K.bottom)) := lawful.bottom_mem
    obtain ⟨left, right⟩ := Constraint.make_both marker bottom .compatible
    have contradictory := agree _ left right
    rw [entails_contradiction_iff lawful overA, entails_contradiction_iff lawful overB]
      at contradictory
    exact not_iff_not.mp contradictory
  by_cases sat : a.isSat K = true
  · have same : a.consequences K onto = b.consequences K onto := by
      apply ext_mem
      intro c
      rw [mem_consequences lawful overA, mem_consequences lawful overB]
      apply and_congr_right
      intro left
      apply and_congr_right
      intro right
      rw [agree c left right]
    rw [project_eq_condense lawful overA sat,
      project_eq_condense lawful overB (satisfiable.mp sat), same]
  · rw [project_of_unsat sat, project_of_unsat fun other => sat (satisfiable.mpr other)]

theorem equivalent_iff :
    a.equivalent K b = true ↔ ∀ σ, Solution K a σ ↔ Solution K b σ := by
  rw [equivalent, Bool.and_eq_true, implies_iff lawful overA overB, implies_iff lawful overB overA]
  constructor
  · intro both σ
    exact ⟨both.1 σ, both.2 σ⟩
  · intro same
    exact ⟨fun σ => (same σ).mp, fun σ => (same σ).mpr⟩

end Agreement

theorem project_project (lawful : K.Lawful) (based : cs.Over K)
    (included : ∀ v ∈ inner, v ∈ onto) :
    (cs.project K onto).project K inner = cs.project K inner := by
  apply project_congr lawful (project_over lawful based) based
  intro c left right
  exact project_entails_iff lawful based (left.mono included) (right.mono included)

end ConstraintSet

namespace Checked

variable {domain : Domain} (built : domain.Built) (overA : a.Over domain.lattice)
variable (overB : b.Over domain.lattice)
include built overA overB

theorem equivalent_eq : equivalent domain a b = .ok (a.equivalent domain.lattice b) := by
  rw [equivalent, implies_eq built overA overB, implies_eq built overB overA, both_eq,
    ConstraintSet.equivalent]

theorem entails_eq_iff (left : c.lhs.Known domain.lattice) (right : c.rhs.Known domain.lattice) :
    entails domain a c = entails domain b c ↔
      (Entails domain.lattice a c ↔ Entails domain.lattice b c) := by
  rw [entails_eq built overA left right, entails_eq built overB left right,
    ← Closure.entails_iff built.lawful overA left right,
    ← Closure.entails_iff built.lawful overB left right, ← Bool.eq_iff_iff]
  constructor
  · exact Except.ok.inj
  · exact congrArg Except.ok

end Checked

/-- Projection is a canonical form: sets that entail the same between operands within some
variables project to the same set, so equivalent sets do, and projecting in two steps is
projecting at once. -/
theorem projection_canonical {domain : Domain} (built : domain.Built)
    (overA : a.Over domain.lattice) (onto : VarSet) :
    ∃ projected, Checked.project domain a onto = .ok projected ∧
      (∀ b : ConstraintSet, b.Over domain.lattice →
        (∀ c : Flow, c.lhs.Within domain.lattice onto → c.rhs.Within domain.lattice onto →
          Checked.entails domain a c = Checked.entails domain b c) →
        Checked.project domain b onto = .ok projected) ∧
      (∀ b : ConstraintSet, b.Over domain.lattice → Checked.equivalent domain a b = .ok true →
        Checked.project domain b onto = .ok projected) ∧
      Checked.project domain projected onto = .ok projected ∧
      ∀ inner : VarSet, (∀ v ∈ inner, v ∈ onto) →
        Checked.project domain projected inner = Checked.project domain a inner := by
  have lawful := built.lawful
  have overProjected : (a.project domain.lattice onto).Over domain.lattice :=
    ConstraintSet.project_over lawful overA
  refine ⟨_, Checked.project_eq built overA onto, ?_, ?_, ?_, ?_⟩
  · intro b overB agree
    rw [Checked.project_eq built overB]
    apply congrArg Except.ok
    apply ConstraintSet.project_congr lawful overB overA
    intro c left right
    exact ((Checked.entails_eq_iff built overA overB left.known right.known).mp
      (agree c left right)).symm
  · intro b overB answer
    rw [Checked.equivalent_eq built overA overB] at answer
    have same := (ConstraintSet.equivalent_iff lawful overA overB).mp (Except.ok.inj answer)
    rw [Checked.project_eq built overB]
    apply congrArg Except.ok
    apply ConstraintSet.project_congr lawful overB overA
    intro c _ _
    simp only [Entails, same]
  · rw [Checked.project_eq built overProjected, ConstraintSet.project_project lawful overA]
    exact fun _ member => member
  · intro inner included
    rw [Checked.project_eq built overProjected, Checked.project_eq built overA,
      ConstraintSet.project_project lawful overA included]

/-- A variable that can only be public, and flows into some others. -/
def publicSample (targets : List Int) : ConstraintSet :=
  let x (index : Int) : Operand := .var ⟨1, .fresh, index⟩
  .ofList (.make (x 0) .flow (.literal .dyn) ::
    .make (x 0) .flow (.literal (.level (.name "bottom"))) ::
    targets.map (fun index => .make (x 0) .flow (x index)))

/-- To flow into a variable says nothing more, though it mentions the variable. -/
theorem projection_canonical_public :
    let onto : VarSet := .ofList [⟨1, .fresh, 0⟩, ⟨1, .fresh, 1⟩]
    Domain.diamond.Built ∧ (publicSample []).Over Domain.diamond.lattice ∧
      (publicSample [1]).Over Domain.diamond.lattice ∧
      (publicSample []).vars ≠ (publicSample [1]).vars ∧
      (∀ c : Flow, c.lhs.Within Domain.diamond.lattice onto →
        c.rhs.Within Domain.diamond.lattice onto →
        Checked.entails Domain.diamond (publicSample []) c =
          Checked.entails Domain.diamond (publicSample [1]) c) ∧
      ∃ projected, Checked.project Domain.diamond (publicSample []) onto = .ok projected ∧
        Checked.project Domain.diamond (publicSample [1]) onto = .ok projected := by
  intro onto
  have built := Domain.diamond_built
  have fewer : (publicSample []).Over Domain.diamond.lattice := by decide +kernel
  have more : (publicSample [1]).Over Domain.diamond.lattice := by decide +kernel
  have same := (ConstraintSet.equivalent_iff built.lawful fewer more).mp (by decide +kernel)
  have agree : ∀ c : Flow, c.lhs.Within Domain.diamond.lattice onto →
      c.rhs.Within Domain.diamond.lattice onto →
      Checked.entails Domain.diamond (publicSample []) c =
        Checked.entails Domain.diamond (publicSample [1]) c := by
    intro c left right
    apply (Checked.entails_eq_iff built fewer more left.known right.known).mpr
    simp only [Entails, same]
  obtain ⟨projected, computed, canonical, _⟩ := projection_canonical built fewer onto
  exact ⟨built, fewer, more, by decide +kernel, agree, projected, computed,
    canonical _ more agree⟩

/-- Projection loses no consequence between operands within its variables, whatever kinds of
constraints are mixed: it mentions these variables only, is satisfiable exactly when the set
is, entails the same about them, and leaves their least levels as they are. -/
theorem projection_keeps_consequences {domain : Domain} (built : domain.Built)
    (based : cs.Over domain.lattice) (onto : VarSet) :
    ∃ projected, Checked.project domain cs onto = .ok projected ∧
      (∀ v ∈ projected.vars, v ∈ onto) ∧
      (∃ before after, Checked.closure domain cs = .ok before ∧
        Checked.closure domain projected = .ok after ∧ after.isSat = before.isSat) ∧
      (∀ c : Flow, c.lhs.Within domain.lattice onto → c.rhs.Within domain.lattice onto →
        ∃ answer, Checked.entails domain projected c = .ok answer ∧
          Checked.entails domain cs c = .ok answer) ∧
      (cs.isSat domain.lattice = true → ∃ short long,
        Checked.leastAssignment domain projected [] = .ok (some short) ∧
        Checked.leastAssignment domain cs [] = .ok (some long) ∧
        (∀ v ∈ projected.vars, ∃ level, short.get? v = some level ∧ long.get? v = some level) ∧
        ∀ v ∈ cs.vars, v ∈ onto → v ∉ projected.vars →
          long.get? v = some domain.lattice.bottom) := by
  have lawful := built.lawful
  have overProjected : (cs.project domain.lattice onto).Over domain.lattice :=
    ConstraintSet.project_over lawful based
  refine ⟨_, Checked.project_eq built based onto, ?_, ?_, ?_, ?_⟩
  · intro v listed
    exact (ConstraintSet.project_vars lawful based v listed).2
  · exact ⟨_, _, Checked.closure_eq built based, Checked.closure_eq built overProjected,
      ConstraintSet.project_isSat lawful based⟩
  · intro c left right
    have same := (Checked.entails_eq_iff built overProjected based left.known right.known).mpr
      (ConstraintSet.project_entails_iff lawful based left right)
    have answer := Checked.entails_eq built based left.known right.known
    exact ⟨_, same.trans answer, answer⟩
  · intro sat
    obtain ⟨σ, solution⟩ := (Closure.isSat_iff lawful based).mp sat
    have projected : Solution domain.lattice (cs.project domain.lattice onto) σ :=
      ConstraintSet.project_solution lawful based solution
    have satProjected := (Closure.isSat_iff lawful overProjected).mpr ⟨σ, projected⟩
    obtain ⟨short, computed, levels⟩ := leastAssignment_get built overProjected satProjected
    obtain ⟨long, computed', levels'⟩ := leastAssignment_get built based sat
    refine ⟨short, long, computed, computed', ?_, ?_⟩
    · intro v listed
      obtain ⟨mentioned, member⟩ := ConstraintSet.project_vars lawful based v listed
      refine ⟨_, levels v listed, ?_⟩
      rw [levels' v mentioned, ConstraintSet.leastValuation_project lawful based solution member]
    · intro v mentioned member free
      rw [levels' v mentioned, ← ConstraintSet.leastValuation_project lawful based solution member,
        ConstraintSet.leastValuation_free lawful overProjected projected free]
      rfl

/-- A level behind an implication, and two variables that are compatible with each other. -/
def relaySample : ConstraintSet :=
  let x (index : Int) : Operand := .var ⟨1, .fresh, index⟩
  .ofList [.make (.literal (.level .high)) .flow (x 3), .make (x 3) .flow (x 0),
    .make (x 1) .implies (x 3), .make (x 2) .compatible (x 4)]

/-- What is never dynamic because of an eliminated variable is still compatible with a level,
and nothing is said of a variable that was never mentioned. -/
theorem projection_keeps_consequences_relay :
    let x (index : Int) : TypeVar := ⟨1, .fresh, index⟩
    let onto : VarSet := .ofList [x 0, x 1, x 2, x 5]
    let static (index : Int) : Flow :=
      .make (.var (x index)) .compatible (.literal (.level .high))
    Domain.twoPoint.Built ∧ relaySample.Over Domain.twoPoint.lattice ∧
      ∃ projected, Checked.project Domain.twoPoint relaySample onto = .ok projected ∧
        Checked.entails Domain.twoPoint projected (static 1) = .ok true ∧
        Checked.entails Domain.twoPoint projected (static 5) = .ok false ∧
        ∃ short long, Checked.leastAssignment Domain.twoPoint projected [] = .ok (some short) ∧
          Checked.leastAssignment Domain.twoPoint relaySample [] = .ok (some long) ∧
          short.get? (x 0) = long.get? (x 0) ∧ long.get? (x 2) = some .low := by
  intro x onto static
  have built := Domain.Built.twoPoint
  have based : relaySample.Over Domain.twoPoint.lattice := by decide +kernel
  have sat : relaySample.isSat Domain.twoPoint.lattice = true := by decide +kernel
  have mentions : (relaySample.project Domain.twoPoint.lattice onto).vars = .ofList [x 0, x 1] := by
    decide +kernel
  obtain ⟨projected, computed, _, _, entailed, assigned⟩ :=
    projection_keeps_consequences built based onto
  obtain rfl := Except.ok.inj ((Checked.project_eq built based onto).symm.trans computed)
  obtain ⟨short, long, first, second, levels, free⟩ := assigned sat
  have asked : ∀ index, x index ∈ onto →
      Checked.entails Domain.twoPoint (relaySample.project Domain.twoPoint.lattice onto)
        (static index) = .ok (relaySample.entails Domain.twoPoint.lattice (static index)) := by
    intro index listed
    have inside : (Operand.var (x index)).Within Domain.twoPoint.lattice onto := listed
    have level : (Operand.literal (.level .high)).Within Domain.twoPoint.lattice onto := by
      decide +kernel
    obtain ⟨left, right⟩ := Constraint.make_both inside level .compatible
    obtain ⟨answer, there, here⟩ := entailed _ left right
    rw [there, ← here, Checked.entails_eq built based left.known right.known]
  refine ⟨built, based, _, computed, ?_, ?_, short, long, first, second, ?_, ?_⟩
  · exact (asked 1 (by decide +kernel)).trans (congrArg Except.ok (by decide +kernel))
  · exact (asked 5 (by decide +kernel)).trans (congrArg Except.ok (by decide +kernel))
  · obtain ⟨level, left, right⟩ := levels (x 0) (mentions ▸ by decide +kernel)
    rw [left, right]
  · exact free (x 2) (by decide +kernel) (by decide +kernel) (mentions ▸ by decide +kernel)

end FlowTyping
