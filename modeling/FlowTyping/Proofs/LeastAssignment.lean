import FlowTyping.Proofs.GuardedAgreement

namespace FlowTyping

variable {K : LevelLattice Level} {cs : ConstraintSet} {σ τ : Valuation} {v : TypeVar}

theorem Solution.leastValuation_le (solution : Solution K cs σ) (lawful : K.Lawful)
    (based : cs.Over K) (v : TypeVar) :
    Value.le K (leastValuation K cs .none v) (σ v) = true := by
  have known : (Operand.var v).Known K := trivial
  exact solution.least_le lawful based Demands.none_known Demands.none_met known

theorem Solution.leastValuation (solution : Solution K cs σ) (lawful : K.Lawful)
    (based : cs.Over K) : Solution K cs (leastValuation K cs .none) :=
  (solution.consistent lawful based Demands.none_known Demands.none_met).solution lawful based
    Demands.none_known

/-- Sets between which solutions carry over without changing a variable give it the same
least value. -/
theorem leastValuation_eq {other : ConstraintSet} (lawful : K.Lawful) (based : cs.Over K)
    (overOther : other.Over K) (solution : Solution K cs σ)
    (there : ∀ σ, Solution K cs σ → ∃ τ, Solution K other τ ∧ τ v = σ v)
    (back : ∀ τ, Solution K other τ → ∃ σ, Solution K cs σ ∧ σ v = τ v) :
    leastValuation K cs .none v = leastValuation K other .none v := by
  have least := solution.leastValuation lawful based
  obtain ⟨τ, carried, same⟩ := there _ least
  have leastOther := carried.leastValuation lawful overOther
  obtain ⟨ρ, returned, same'⟩ := back _ leastOther
  apply Value.le_antisymm lawful (least.belongs v) (leastOther.belongs v)
  · rw [← same']
    exact returned.leastValuation_le lawful based v
  · rw [← same]
    exact carried.leastValuation_le lawful overOther v

section Bounds

variable {other : ConstraintSet} (lawful : K.Lawful) (based : cs.Over K) (overOther : other.Over K)
variable (solution : Solution K cs σ) (solutionOther : Solution K other τ)
include lawful based overOther solution solutionOther

/-- Where a set entails the literal bounds of another one for a variable, its least value is
at least as high. -/
theorem leastValuation_le_of_bounds
    (bounds : ∀ l : Literal, (Operand.literal l).Known K →
      Entails K cs (.make (.literal l) .flow (.var v)) →
        Entails K other (.make (.literal l) .flow (.var v))) :
    Value.le K (leastValuation K cs .none v) (leastValuation K other .none v) = true := by
  have belongs := (solution.leastValuation lawful based).belongs v
  have least := solutionOther.leastValuation lawful overOther
  have below : ∀ l : Literal, (Operand.literal l).Known K →
      leastValuation K cs .none v = .ofLiteral l →
      Value.le K (.ofLiteral l) (leastValuation K other .none v) = true := by
    intro l known value
    have entailed : Entails K cs (.make (.literal l) .flow (.var v)) := by
      intro ρ solved
      have lower := solved.leastValuation_le lawful based v
      rw [value] at lower
      rw [Flow.holds_make]
      exact lower
    have held := bounds l known entailed _ least
    rwa [Flow.holds_make] at held
  cases value : leastValuation K cs .none v with
  | pub => rfl
  | dyn => exact below .dyn trivial value
  | level l =>
    rw [value] at belongs
    exact below (.level l) belongs value

theorem leastValuation_eq_of_bounds
    (bounds : ∀ l : Literal, (Operand.literal l).Known K →
      (Entails K cs (.make (.literal l) .flow (.var v)) ↔
        Entails K other (.make (.literal l) .flow (.var v)))) :
    leastValuation K cs .none v = leastValuation K other .none v := by
  have belongs := (solution.leastValuation lawful based).belongs v
  have belongsOther := (solutionOther.leastValuation lawful overOther).belongs v
  apply Value.le_antisymm lawful belongs belongsOther
  · exact leastValuation_le_of_bounds lawful based overOther solution solutionOther
      fun l known => (bounds l known).mp
  · exact leastValuation_le_of_bounds lawful overOther based solutionOther solution
      fun l known => (bounds l known).mpr

end Bounds

def Value.levelOrBottom (K : LevelLattice Level) : Value → Level
  | .level l => l
  | _ => K.bottom

theorem levelsInto_var :
    levelsInto cs .none (.var v) =
      ((FlowGraph.ofSet cs).lowerLiterals (.var v)).filterMap Operand.level? := by
  have bare : (Operand.var v).level? = none := rfl
  simp [levelsInto, Demands.none, bare]

/-- A variable with a level below it in a consistent set has a greatest lower bound. -/
theorem leastLevel?_of_levelsInto (consistent : Consistent K cs .none)
    (holds : levelsInto cs .none (.var v) ≠ []) :
    (Closure.ofSet K cs).leastLevel? (.var v) =
      some (K.joinAll (levelsInto cs .none (.var v))) := by
  have unmarked : ¬ ((FlowGraph.ofSet cs).lowerLiterals (.var v)).any Operand.isDyn = true := by
    intro marked
    obtain ⟨source, listed, dynamic⟩ := List.any_eq_true.mp marked
    obtain rfl := Operand.isDyn_iff.mp dynamic
    have flows := (FlowGraph.mem_predecessors.mp (List.mem_filter.mp listed).1).2
    exact consistent.apart (.var v) trivial ⟨Or.inl flows.spreads, holds⟩
  have nonempty : ¬ ((FlowGraph.ofSet cs).lowerLiterals (.var v)).isEmpty = true := by
    intro empty
    rw [levelsInto_var, List.isEmpty_iff.mp empty] at holds
    exact holds rfl
  rw [Closure.leastLevel?_ofSet, if_neg, levelsInto_var]
  rw [Bool.or_eq_true]
  exact not_or.mpr ⟨nonempty, unmarked⟩

/-- Without a level below it, only the marker can be. -/
theorem leastLevel?_of_nothing (nothing : levelsInto cs .none (.var v) = []) :
    (Closure.ofSet K cs).leastLevel? (.var v) = none := by
  rw [Closure.leastLevel?_ofSet, if_pos]
  rw [Bool.or_eq_true, List.isEmpty_iff]
  by_cases empty : (FlowGraph.ofSet cs).lowerLiterals (.var v) = []
  · exact Or.inl empty
  · obtain ⟨source, listed⟩ := List.exists_mem_of_ne_nil _ empty
    obtain ⟨l, rfl⟩ := Operand.isLiteral_iff.mp (List.mem_filter.mp listed).2
    cases l with
    | dyn => exact Or.inr (List.any_eq_true.mpr ⟨_, listed, rfl⟩)
    | level l =>
      have among : l ∈ levelsInto cs .none (.var v) := by
        rw [levelsInto_var]
        exact List.mem_filterMap.mpr ⟨_, listed, rfl⟩
      rw [nothing] at among
      cases among

def Value.level? : Value → Option Level
  | .level l => some l
  | _ => none

theorem leastLevel?_eq (consistent : Consistent K cs .none) :
    (Closure.ofSet K cs).leastLevel? (.var v) = (leastValuation K cs .none v).level? := by
  show _ = (least K cs .none (.var v)).level?
  by_cases nothing : levelsInto cs .none (.var v) = []
  · rw [leastLevel?_of_nothing nothing]
    by_cases dynamic : DynInto cs .none (.var v)
    · rw [least_of_dynInto dynamic]
      rfl
    · rw [least_of_nothing dynamic nothing]
      rfl
  · have known : (Operand.var v).Known K := trivial
    rw [leastLevel?_of_levelsInto consistent nothing,
      least_of_levels (consistent.not_dynInto known nothing) nothing]
    rfl

/-- The join of the literals below a variable, or the bottom, is its level in the least
solution. -/
theorem leastLevel?_getD (consistent : Consistent K cs .none) :
    ((Closure.ofSet K cs).leastLevel? (.var v)).getD K.bottom =
      (leastValuation K cs .none v).levelOrBottom K := by
  rw [leastLevel?_eq consistent]
  cases leastValuation K cs .none v <;> rfl

theorem leastAssignment?_of_sat (lawful : K.Lawful) (based : cs.Over K)
    (sat : cs.isSat K = true) (fixed : List TypeVar) :
    cs.leastAssignment? K fixed =
      some ⟨(cs.vars.toList.filter (fun v => decide (v ∉ fixed))).map (fun v =>
        (v, (leastValuation K cs .none v).levelOrBottom K))⟩ := by
  have consistent := (Closure.isSat_iff_consistent lawful based).mp sat
  show (if cs.isSat K = true then _ else _) = _
  rw [if_pos sat]
  simp only [leastLevel?_getD consistent]

/-- A satisfiable set has an assignment, which binds every variable to its level in the
least solution. -/
theorem leastAssignment_get {domain : Domain} (built : domain.Built)
    (based : cs.Over domain.lattice) (sat : cs.isSat domain.lattice = true) :
    ∃ assignment, Checked.leastAssignment domain cs [] = .ok (some assignment) ∧
      ∀ v ∈ cs.vars, assignment.get? v =
        some ((leastValuation domain.lattice cs .none v).levelOrBottom domain.lattice) := by
  have computed := leastAssignment?_of_sat built.lawful based sat []
  refine ⟨_, (Checked.leastAssignment_eq built based []).trans (congrArg _ computed), ?_⟩
  intro v member
  show List.lookup v _ = _
  rw [lookup_tabulated, if_pos]
  simpa [← SortedSet.mem_def] using member

end FlowTyping
