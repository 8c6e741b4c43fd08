import FlowTyping.Proofs.Condensation

/-!
Implication between sets, seen from outside. One set implies another exactly when every
solution of the first solves the second. That is also what a context can observe: joined with
any third set, the first is satisfiable only if the second is. A solution that solves the
first set alone is told apart by the context that writes its values down.
-/

namespace FlowTyping

variable {K : LevelLattice Level} {a b cs : ConstraintSet} {σ τ : Valuation}

namespace Value

/-- The literals that flow into a variable to hold it up at a value. -/
def below : Value → List Literal
  | .pub => []
  | .dyn => [.dyn]
  | .level l => [.level l]

/-- The literals that a variable flows into to hold it down at a value. No literal is public,
but only the public value flows both into the marker and into a level. -/
def above (K : LevelLattice Level) : Value → List Literal
  | .pub => [.dyn, .level K.bottom]
  | .dyn => [.dyn]
  | .level l => [.level l]

variable {x y : Value}

theorem below_known (belongs : x.Belongs K) :
    ∀ l ∈ x.below, (Operand.literal l).Known K := by
  cases x with
  | pub => simp [below]
  | dyn => simp [below, Operand.Known]
  | level l => simpa [below, Operand.Known, Belongs] using belongs

theorem above_known (lawful : K.Lawful) (belongs : x.Belongs K) :
    ∀ l ∈ x.above K, (Operand.literal l).Known K := by
  cases x with
  | pub => simpa [above, Operand.Known] using lawful.bottom_mem
  | dyn => simp [above, Operand.Known]
  | level l => simpa [above, Operand.Known, Belongs] using belongs

theorem below_le (lawful : K.Lawful) (belongs : x.Belongs K) :
    ∀ l ∈ x.below, Value.le K (.ofLiteral l) x = true := by
  cases x with
  | pub => simp [below]
  | dyn => simp [below, ofLiteral, Value.le]
  | level l => simpa [below, ofLiteral, Value.le] using lawful.refl l belongs

theorem le_above (lawful : K.Lawful) (belongs : x.Belongs K) :
    ∀ l ∈ x.above K, Value.le K x (.ofLiteral l) = true := by
  cases x with
  | pub => simp
  | dyn => simp [above, ofLiteral, Value.le]
  | level l => simpa [above, ofLiteral, Value.le] using lawful.refl l belongs

theorem eq_of_bounds (lawful : K.Lawful) (knownX : x.Belongs K) (knownY : y.Belongs K)
    (lower : ∀ l ∈ x.below, Value.le K (.ofLiteral l) y = true)
    (upper : ∀ l ∈ x.above K, Value.le K y (.ofLiteral l) = true) : y = x := by
  cases x with
  | pub =>
    apply eq_pub_of_le
    · exact upper .dyn (by simp [above])
    · exact upper (.level K.bottom) (by simp [above])
  | dyn => exact dyn_le_iff.mp (lower .dyn (by simp [below]))
  | level l =>
    apply le_antisymm lawful knownY knownX
    · exact upper (.level l) (by simp [above])
    · exact lower (.level l) (by simp [below])

end Value

namespace ConstraintSet

/-- The set that leaves some variables the values of one valuation only. -/
def pinning (K : LevelLattice Level) (σ : Valuation) (vars : VarSet) : ConstraintSet :=
  ofList (vars.toList.flatMap (fun v =>
    (σ v).below.map (fun l => Constraint.make (.literal l) .flow (.var v)) ++
      ((σ v).above K).map (fun l => Constraint.make (.var v) .flow (.literal l))))

variable {vars : VarSet}

theorem mem_pinning {c : Flow} :
    c ∈ pinning K σ vars ↔ ∃ v ∈ vars,
      (∃ l ∈ (σ v).below, Constraint.make (.literal l) .flow (.var v) = c) ∨
        ∃ l ∈ (σ v).above K, Constraint.make (.var v) .flow (.literal l) = c := by
  simp only [pinning, mem_ofList, List.mem_flatMap, List.mem_append, List.mem_map,
    ← SortedSet.mem_def]

theorem pinning_over (lawful : K.Lawful) (belongs : ∀ v, (σ v).Belongs K) :
    (pinning K σ vars).Over K := by
  apply over_iff_sides.mpr
  intro c member
  obtain ⟨v, _, sides⟩ := mem_pinning.mp member
  have variableKnown : (Operand.var v).Known K := trivial
  rcases sides with ⟨l, listed, rfl⟩ | ⟨l, listed, rfl⟩
  · exact Constraint.make_both (Value.below_known (belongs v) l listed) variableKnown .flow
  · exact Constraint.make_both variableKnown (Value.above_known lawful (belongs v) l listed) .flow

theorem pinning_solution (lawful : K.Lawful) (belongs : ∀ v, (σ v).Belongs K) :
    Solution K (pinning K σ vars) σ := by
  refine ⟨belongs, ?_⟩
  intro c member
  obtain ⟨v, _, sides⟩ := mem_pinning.mp member
  rcases sides with ⟨l, listed, rfl⟩ | ⟨l, listed, rfl⟩
  · rw [Flow.holds_make]
    exact Value.below_le lawful (belongs v) l listed
  · rw [Flow.holds_make]
    exact Value.le_above lawful (belongs v) l listed

/-- A set that pins some variables leaves them no other values. -/
theorem eq_of_pinning (lawful : K.Lawful) (belongs : ∀ v, (σ v).Belongs K)
    (solution : Solution K (pinning K σ vars) τ) : ∀ v ∈ vars, τ v = σ v := by
  intro v listed
  apply Value.eq_of_bounds lawful (belongs v) (solution.belongs v)
  · intro l lower
    have held := solution.holds _ (mem_pinning.mpr ⟨v, listed, Or.inl ⟨l, lower, rfl⟩⟩)
    rwa [Flow.holds_make] at held
  · intro l upper
    have held := solution.holds _ (mem_pinning.mpr ⟨v, listed, Or.inr ⟨l, upper, rfl⟩⟩)
    rwa [Flow.holds_make] at held

theorem implies_iff (lawful : K.Lawful) (overA : a.Over K) (overB : b.Over K) :
    a.implies K b = true ↔ ∀ σ, Solution K a σ → Solution K b σ := by
  have known : ∀ c ∈ b.minimize K, c.lhs.Known K ∧ c.rhs.Known K := fun c member =>
    overB.known (minimize_subset c member)
  have entails : ∀ c ∈ b.minimize K,
      ((Closure.ofSet K a).entails c = true ↔ Entails K a c) := fun c member =>
    Closure.entails_iff lawful overA (known c member).1 (known c member).2
  simp only [implies, Bool.or_eq_true, Bool.not_eq_true', List.all_eq_true, mem_toList]
  constructor
  · intro verdict σ solution
    rcases verdict with unsat | derivable
    · have sat := (Closure.isSat_iff lawful overA).mpr ⟨σ, solution⟩
      rw [unsat] at sat
      cases sat
    · apply (minimize_solution_iff lawful overB).mp
      refine ⟨solution.belongs, ?_⟩
      intro c member
      exact (entails c member).mp (derivable c member) σ solution
  · intro carries
    right
    intro c member
    apply (entails c member).mpr
    intro σ solution
    exact ((minimize_solution_iff lawful overB).mpr (carries σ solution)).holds c member

/-- What a context cannot tell apart, no solution tells apart. -/
theorem solution_of_contexts (lawful : K.Lawful) (overA : a.Over K) (overB : b.Over K)
    (observed : ∀ context : ConstraintSet, context.Over K →
      (a.union context).isSat K = true → (b.union context).isSat K = true)
    (solution : Solution K a σ) : Solution K b σ := by
  have contextOver : (pinning K σ b.vars).Over K := pinning_over lawful solution.belongs
  have pinned : Solution K (pinning K σ b.vars) σ := pinning_solution lawful solution.belongs
  have satA : (a.union (pinning K σ b.vars)).isSat K = true :=
    (Closure.isSat_iff lawful (overA.union contextOver)).mpr
      ⟨σ, Solution.union_iff.mpr ⟨solution, pinned⟩⟩
  have satB := observed _ contextOver satA
  obtain ⟨τ, joined⟩ := (Closure.isSat_iff lawful (overB.union contextOver)).mp satB
  obtain ⟨solvesB, context⟩ := Solution.union_iff.mp joined
  apply solvesB.congr solution.belongs
  intro v listed
  exact (eq_of_pinning lawful solution.belongs context v listed).symm

theorem isSat_union_of_solutions (lawful : K.Lawful) (overA : a.Over K) (overB : b.Over K)
    (carries : ∀ σ, Solution K a σ → Solution K b σ) (contextOver : cs.Over K)
    (sat : (a.union cs).isSat K = true) : (b.union cs).isSat K = true := by
  obtain ⟨σ, joined⟩ := (Closure.isSat_iff lawful (overA.union contextOver)).mp sat
  obtain ⟨solution, context⟩ := Solution.union_iff.mp joined
  apply (Closure.isSat_iff lawful (overB.union contextOver)).mpr
  exact ⟨σ, Solution.union_iff.mpr ⟨carries σ solution, context⟩⟩

end ConstraintSet

theorem Checked.implies_eq {domain : Domain} (built : domain.Built)
    (overA : a.Over domain.lattice) (overB : b.Over domain.lattice) :
    implies domain a b = .ok (a.implies domain.lattice b) := by
  have derivable : all (entailedBy domain (Closure.ofSet domain.lattice a))
      (b.minimize domain.lattice).toList =
      .ok ((b.minimize domain.lattice).toList.all (Closure.ofSet domain.lattice a).entails) := by
    apply all_eq
    intro c member
    obtain ⟨knownLhs, knownRhs⟩ := overB.known (ConstraintSet.minimize_subset c member)
    exact entailedBy_eq built overA knownLhs knownRhs
  rw [implies, closure_eq built overA, minimize_eq built overB, ConstraintSet.implies]
  simp only [bind, Except.bind, derivable]
  cases (Closure.ofSet domain.lattice a).isSat <;> rfl

/-- Implication is fully abstract: the question is never refused, and the answer is yes
exactly when no context over the domain is satisfiable with the first set and not with the
second, which is when every solution of the first solves the second. -/
theorem implication_fully_abstract {domain : Domain} (built : domain.Built)
    (overA : a.Over domain.lattice) (overB : b.Over domain.lattice) :
    ∃ answer, Checked.implies domain a b = .ok answer ∧
      (answer = true ↔ ∀ context : ConstraintSet, context.Over domain.lattice →
        (a.union context).isSat domain.lattice = true →
          (b.union context).isSat domain.lattice = true) ∧
      (answer = true ↔ ∀ σ, Solution domain.lattice a σ → Solution domain.lattice b σ) := by
  have lawful := built.lawful
  have solutions := ConstraintSet.implies_iff lawful overA overB
  refine ⟨_, Checked.implies_eq built overA overB, ?_, solutions⟩
  rw [solutions]
  constructor
  · intro carries context contextOver sat
    exact ConstraintSet.isSat_union_of_solutions lawful overA overB carries contextOver sat
  · intro observed σ solution
    exact ConstraintSet.solution_of_contexts lawful overA overB observed solution

/-- Some levels of the diamond flow into one variable. -/
def inflowSample (names : List String) : ConstraintSet :=
  .ofList (names.map (fun name =>
    Constraint.make (.literal (.level (.name name))) .flow (.var ⟨1, .fresh, 0⟩)))

/-- Two levels side by side say as much as their join in every context, one of them less in
some context. -/
theorem implication_fully_abstract_inflow :
    let K := Domain.diamond.lattice
    Domain.diamond.Built ∧ (inflowSample ["top"]).Over K ∧
      (∀ context : ConstraintSet, context.Over K →
        ((inflowSample ["left", "right"]).union context).isSat K = true →
          ((inflowSample ["top"]).union context).isSat K = true) ∧
      ¬ ∀ context : ConstraintSet, context.Over K →
        ((inflowSample ["left"]).union context).isSat K = true →
          ((inflowSample ["top"]).union context).isSat K = true := by
  intro K
  have both : (inflowSample ["left", "right"]).Over K := by decide +kernel
  have one : (inflowSample ["left"]).Over K := by decide +kernel
  have top : (inflowSample ["top"]).Over K := by decide +kernel
  refine ⟨Domain.diamond_built, top, ?_, ?_⟩
  · obtain ⟨answer, computed, contexts, _⟩ :=
      implication_fully_abstract Domain.diamond_built both top
    have asked := Checked.implies_eq Domain.diamond_built both top
    apply contexts.mp
    rw [← Except.ok.inj (asked.symm.trans computed)]
    decide +kernel
  · obtain ⟨answer, computed, contexts, _⟩ :=
      implication_fully_abstract Domain.diamond_built one top
    have asked := Checked.implies_eq Domain.diamond_built one top
    intro observed
    have yes := contexts.mpr observed
    rw [← Except.ok.inj (asked.symm.trans computed)] at yes
    revert yes
    decide +kernel

end FlowTyping
