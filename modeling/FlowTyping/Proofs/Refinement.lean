import FlowTyping.Proofs.Implication
import FlowTyping.Proofs.Projection

namespace FlowTyping

variable {K : LevelLattice Level} {body declared context : ConstraintSet} {σ ρ τ : Valuation}
variable {boundary onto : VarSet}

/-- The variables through which a body is compared with a declaration. -/
abbrev ConstraintSet.footprint (declared : ConstraintSet) (boundary : VarSet) : VarSet :=
  declared.vars.union boundary

/-- Two solutions that agree on the common variables make one for both sets. -/
theorem Solution.glue (inner : Solution K body ρ) (outer : Solution K context σ)
    (agree : ∀ v ∈ context.vars, v ∈ body.vars → ρ v = σ v) :
    ∃ τ, Solution K (body.union context) τ := by
  obtain ⟨τ, inside, outside⟩ : ∃ τ : Valuation, (∀ v ∈ body.vars, τ v = ρ v) ∧
      ∀ v, v ∉ body.vars → τ v = σ v :=
    ⟨fun v => if v ∈ body.vars then ρ v else σ v, fun v member => if_pos member,
      fun v missing => if_neg missing⟩
  have belongs : ∀ v, (τ v).Belongs K := by
    intro v
    by_cases member : v ∈ body.vars
    · exact inside v member ▸ inner.belongs v
    · exact outside v member ▸ outer.belongs v
  refine ⟨τ, Solution.union_iff.mpr ⟨inner.congr belongs inside, outer.congr belongs ?_⟩⟩
  intro v listed
  by_cases member : v ∈ body.vars
  · rw [inside v member, agree v listed member]
  · exact outside v member

namespace ConstraintSet

/-- A declaration says of some variables what a body says: values for them extend to a
solution of the body exactly when they satisfy the declaration. -/
def SameAt (K : LevelLattice Level) (body declared : ConstraintSet) (onto : VarSet) : Prop :=
  ∀ τ : Valuation, (∀ v ∈ onto, (τ v).Belongs K) →
    (body.Extends K onto τ ↔ ∀ c ∈ declared, Flow.holds K τ c = true)

/-- Only values for these variables count. -/
theorem sameAt_iff (inside : ∀ v ∈ declared.vars, v ∈ onto) :
    SameAt K body declared onto ↔ ∀ τ : Valuation, (∀ v, (τ v).Belongs K) →
      (body.Extends K onto τ ↔ ∀ c ∈ declared, Flow.holds K τ c = true) := by
  constructor
  · intro same τ belongs
    exact same τ fun v _ => belongs v
  · intro same τ belongs
    obtain ⟨ρ, agree, everywhere⟩ := Valuation.exists_belonging belongs
    have extended : body.Extends K onto τ ↔ body.Extends K onto ρ :=
      ⟨fun first => first.congr agree, fun first => first.congr fun v member =>
        (agree v member).symm⟩
    have declares : ∀ c ∈ declared, Flow.holds K τ c = Flow.holds K ρ c := by
      intro c member
      apply Flow.holds_congr
      intro v listed
      exact (agree v (inside v (mem_vars_of_mem member listed))).symm
    rw [extended, same ρ everywhere]
    exact forall₂_congr fun c member => by rw [declares c member]

section Verdict

variable (lawful : K.Lawful) (overBody : body.Over K) (overDeclared : declared.Over K)
variable (plain : ∀ c ∈ body, c.kind ≠ .implies)
include lawful overBody overDeclared

theorem refines_iff :
    body.refines K boundary declared = true ↔
      ∀ σ, Solution K (body.project K (declared.footprint boundary)) σ ↔ Solution K declared σ := by
  have overProjected : (body.project K (declared.footprint boundary)).Over K :=
    project_over lawful overBody
  rw [refines, Bool.and_eq_true, implies_iff lawful overProjected overDeclared,
    implies_iff lawful overDeclared overProjected]
  constructor
  · intro both σ
    exact ⟨both.1 σ, both.2 σ⟩
  · intro same
    exact ⟨fun σ => (same σ).mp, fun σ => (same σ).mpr⟩

include plain

theorem refines_iff_sameAt :
    body.refines K boundary declared = true ↔
      SameAt K body declared (declared.footprint boundary) := by
  have inside : ∀ v ∈ declared.vars, v ∈ declared.footprint boundary := fun v member =>
    SortedSet.mem_union.mpr (Or.inl member)
  rw [refines_iff lawful overBody overDeclared, sameAt_iff inside]
  constructor
  · intro same τ belongs
    rw [extends_iff lawful overBody plain fun v _ => belongs v]
    constructor
    · intro projected
      exact ((same τ).mp ⟨belongs, projected⟩).holds
    · intro declares
      exact ((same τ).mpr ⟨belongs, declares⟩).holds
  · intro same σ
    constructor
    · intro solution
      have extended := (extends_iff lawful overBody plain fun v _ => solution.belongs v).mpr
        solution.holds
      exact ⟨solution.belongs, (same σ solution.belongs).mp extended⟩
    · intro solution
      have extended := (same σ solution.belongs).mpr solution.holds
      exact ⟨solution.belongs,
        (extends_iff lawful overBody plain fun v _ => solution.belongs v).mp extended⟩

end Verdict

/-- A context that meets the body in the compared variables only finds the body and the
declaration alike. -/
theorem SameAt.isSat_union (same : SameAt K body declared onto) (lawful : K.Lawful)
    (overBody : body.Over K) (overDeclared : declared.Over K) (overContext : context.Over K)
    (shared : ∀ v ∈ context.vars, v ∈ body.vars → v ∈ onto) :
    (body.union context).isSat K = (declared.union context).isSat K := by
  apply Bool.eq_iff_iff.mpr
  simp only [isSat, Closure.isSat_iff lawful (overBody.union overContext),
    Closure.isSat_iff lawful (overDeclared.union overContext)]
  constructor
  · intro satisfiable
    obtain ⟨σ, solution⟩ := satisfiable
    obtain ⟨inner, outer⟩ := Solution.union_iff.mp solution
    have declares := (same σ fun v _ => solution.belongs v).mp ⟨σ, inner, fun _ _ => rfl⟩
    exact ⟨σ, Solution.union_iff.mpr ⟨⟨solution.belongs, declares⟩, outer⟩⟩
  · intro satisfiable
    obtain ⟨σ, solution⟩ := satisfiable
    obtain ⟨declares, outer⟩ := Solution.union_iff.mp solution
    obtain ⟨ρ, inner, agree⟩ := (same σ fun v _ => solution.belongs v).mpr declares.holds
    exact inner.glue outer fun v listed member => agree v (shared v listed member)

end ConstraintSet

theorem Checked.refines_eq {domain : Domain} (built : domain.Built)
    (overBody : body.Over domain.lattice) (overDeclared : declared.Over domain.lattice) :
    refines domain boundary body declared =
      .ok (body.refines domain.lattice boundary declared) := by
  have overProjected : (body.project domain.lattice (declared.footprint boundary)).Over
      domain.lattice := ConstraintSet.project_over built.lawful overBody
  rw [refines, project_eq built overBody, ConstraintSet.refines]
  simp only [bind, Except.bind, implies_eq built overProjected overDeclared,
    implies_eq built overDeclared overProjected, both_eq]

/-- Refinement is substitutability. The question whether a body without `=>` refines a
declaration is never refused, and the answer is yes exactly when values for the variables of
the declaration and the boundary extend to a solution of the body just in case they solve the
declaration. Then every context that meets the body in these variables only is satisfiable
with the one exactly when it is with the other. -/
theorem refinement_substitutable {domain : Domain} (built : domain.Built) (ns : Namespace)
    (overBody : body.Over domain.lattice) (overDeclared : declared.Over domain.lattice)
    (plain : ∀ c ∈ body, c.kind ≠ .implies) :
    ∃ answer, Checked.refines domain ns.boundary body declared = .ok answer ∧
      (answer = true ↔ ∀ τ : Valuation,
        (∀ v ∈ declared.vars.union ns.boundary, (τ v).Belongs domain.lattice) →
        ((∃ σ, Solution domain.lattice body σ ∧
            ∀ v ∈ declared.vars.union ns.boundary, σ v = τ v) ↔
          ∀ c ∈ declared, Flow.holds domain.lattice τ c = true)) ∧
      (answer = true → ∀ context : ConstraintSet, context.Over domain.lattice →
        (∀ v ∈ context.vars, v ∈ body.vars → v ∈ declared.vars.union ns.boundary) →
        (body.union context).isSat domain.lattice =
          (declared.union context).isSat domain.lattice) := by
  have lawful := built.lawful
  have verdict : body.refines domain.lattice ns.boundary declared = true ↔
      ConstraintSet.SameAt domain.lattice body declared (declared.footprint ns.boundary) :=
    ConstraintSet.refines_iff_sameAt lawful overBody overDeclared plain
  refine ⟨_, Checked.refines_eq built overBody overDeclared, verdict, ?_⟩
  intro refined context overContext shared
  exact (verdict.mp refined).isSat_union lawful overBody overDeclared overContext shared

def relayBody (ns : Namespace) : ConstraintSet :=
  .ofList [.make (.literal (.level .high)) .flow (.var (ns.freshVar 0)),
    .make (.var (ns.paramVar 0)) .flow (.var (ns.freshVar 0)),
    .make (.var (ns.freshVar 0)) .flow (.var ns.ret)]

def relayDeclaration (ns : Namespace) (level : Level) : ConstraintSet :=
  .ofList [.make (.literal (.level level)) .flow (.var ns.ret),
    .make (.var (ns.paramVar 0)) .flow (.var ns.ret)]

/-- The level of the source can be declared in every context, a lower one promises less. -/
theorem refinement_substitutable_relay :
    let K := Domain.twoPoint.lattice
    let ns : Namespace := ⟨1, "x", [0], [], []⟩
    (∀ context : ConstraintSet, context.Over K →
      (∀ v ∈ context.vars, v ∈ (relayBody ns).vars →
        v ∈ (relayDeclaration ns .high).vars.union ns.boundary) →
      ((relayBody ns).union context).isSat K =
        ((relayDeclaration ns .high).union context).isSat K) ∧
      ¬ ∀ τ : Valuation,
        (∀ v ∈ (relayDeclaration ns .low).vars.union ns.boundary, (τ v).Belongs K) →
        ((∃ σ, Solution K (relayBody ns) σ ∧
            ∀ v ∈ (relayDeclaration ns .low).vars.union ns.boundary, σ v = τ v) ↔
          ∀ c ∈ relayDeclaration ns .low, Flow.holds K τ c = true) := by
  intro K ns
  have built := Domain.Built.twoPoint
  have overBody : (relayBody ns).Over K := by decide +kernel
  have overDeclared : ∀ level ∈ [Level.low, Level.high], (relayDeclaration ns level).Over K := by
    decide +kernel
  have overHigh := overDeclared .high (by simp)
  have overLow := overDeclared .low (by simp)
  have plain : ∀ c ∈ relayBody ns, c.kind ≠ .implies := by decide +kernel
  constructor
  · obtain ⟨answer, computed, _, contexts⟩ :=
      refinement_substitutable built ns overBody overHigh plain
    apply contexts
    rw [← Except.ok.inj ((Checked.refines_eq built overBody overHigh).symm.trans computed)]
    decide +kernel
  · obtain ⟨answer, computed, verdict, _⟩ :=
      refinement_substitutable built ns overBody overLow plain
    intro same
    have yes := verdict.mpr same
    rw [← Except.ok.inj ((Checked.refines_eq built overBody overLow).symm.trans computed)] at yes
    revert yes
    decide +kernel

end FlowTyping
