import FlowTyping.Proofs.Admission
import FlowTyping.Proofs.GuardedAgreement

/-!
Entailment is exact. A constraint fails in one of a few ways, each a choice of kinds for
its two sides, and `admits` tells which choices some solution makes. Where both sides of a
flow hold levels, raising the left one to its highest level and leaving the right one at its
lowest gives one solution, so the comparison of these two extremes decides.
-/

namespace FlowTyping

variable {K : LevelLattice Level} {cs : ConstraintSet} {σ : Valuation} {D : Demands}
variable {a b : Operand}

/-- The demand that one operand hold at least a level and another any. -/
def Demands.raising (K : LevelLattice Level) (a : Operand) (l : Level) (b : Operand) : Demands :=
  ⟨[], [(a, l), (b, K.bottom)]⟩

theorem Demands.raising_known (lawful : K.Lawful) (knownA : a.Known K) (knownB : b.Known K)
    {l : Level} (known : l ∈ K.elements) : (Demands.raising K a l b).Known K where
  dyn := by simp [raising]
  operand := by simp [raising, knownA, knownB]
  level := by simp [raising, known, lawful.bottom_mem]

/-- Consistency depends on the demanded levels through the bounds alone. -/
theorem Consistent.relevel {E : Demands} (consistent : Consistent K cs D) (dyn : E.dyn = D.dyn)
    (operands : E.levels.map Prod.fst = D.levels.map Prod.fst)
    (bounded : ∀ u ∈ K.elements, ∀ l ∈ levelsInto cs E (.literal (.level u)),
      K.le l u = true) : Consistent K cs E := by
  have sameDyn : ∀ n, DynInto cs E n ↔ DynInto cs D n := by simp [DynInto, dyn]
  have demands : ∀ n, (∃ p ∈ E.levels, Flows cs p.1 n) ↔ ∃ p ∈ D.levels, Flows cs p.1 n := by
    intro n
    have mapped : (∃ m ∈ E.levels.map Prod.fst, Flows cs m n) ↔
        ∃ m ∈ D.levels.map Prod.fst, Flows cs m n := by rw [operands]
    simpa using mapped
  have sameLevels : ∀ n, levelsInto cs E n ≠ [] ↔ levelsInto cs D n ≠ [] := by
    intro n
    rw [levelsInto_ne_nil_iff, levelsInto_ne_nil_iff, demands]
  have sameClash : ∀ a b, Clash cs E a b ↔ Clash cs D a b := by
    intro a b
    rw [Clash, Clash, sameDyn, sameLevels]
  refine ⟨?_, bounded, ?_⟩
  · simpa only [sameClash] using consistent.apart
  · simpa only [sameClash] using consistent.compatible

namespace Closure

section Entailment

variable (lawful : K.Lawful) (based : cs.Over K) (knownA : a.Known K) (knownB : b.Known K)
include lawful based knownA knownB

theorem breaksByKind_iff :
    (ofSet K cs).breaksByKind a b = true ↔
      ∃ σ, Solution K cs σ ∧ ¬ Value.le K (a.value σ) (b.value σ) = true ∧
        ¬ ((∃ l, a.value σ = .level l) ∧ ∃ u, b.value σ = .level u) := by
  simp only [breaksByKind, Bool.or_eq_true, List.mem_singleton, forall_eq, List.not_mem_nil,
    false_imp_iff, forall_const, true_and, and_true, admits_iff, lawful, based, knownA, knownB]
  constructor
  · rintro (((⟨σ, solution, x, y⟩ | ⟨σ, solution, x, u, y⟩) | ⟨σ, solution, ⟨l, x⟩, y⟩) |
      ⟨σ, solution, y, l, x⟩)
    all_goals exact ⟨σ, solution, by simp [x, y, Value.le], by simp [x, y]⟩
  · rintro ⟨σ, solution, broken, mixed⟩
    cases x : a.value σ with
    | pub => simp [x] at broken
    | dyn =>
      cases y : b.value σ with
      | pub => exact Or.inl (Or.inl (Or.inl ⟨σ, solution, x, y⟩))
      | dyn => simp [x, y, Value.le] at broken
      | level u => exact Or.inl (Or.inl (Or.inr ⟨σ, solution, x, u, y⟩))
    | level l =>
      cases y : b.value σ with
      | pub => exact Or.inl (Or.inr ⟨σ, solution, ⟨l, x⟩, y⟩)
      | dyn => exact Or.inr ⟨σ, solution, y, l, x⟩
      | level u => exact absurd ⟨⟨l, x⟩, u, y⟩ mixed

omit knownA in
theorem lowestLevel_le (solution : Solution K cs σ) {u : Level} (level : b.value σ = .level u) :
    K.le ((ofSet K cs).lowestLevel b) u = true := by
  have belongs : u ∈ K.elements := by
    have value := knownB.belongs solution.belongs
    rwa [level] at value
  have members := lowerLevels_known based knownB
  apply lawful.joinAll_le members belongs
  intro l member
  have below := solution.le_of_flows lawful based knownB (FlowGraph.mem_lowerLevels.mp member)
  rw [level] at below
  exact below

omit knownB in
theorem le_highestLevel (solution : Solution K cs σ) {l : Level} (level : a.value σ = .level l) :
    K.le l ((ofSet K cs).highestLevel a) = true := by
  have belongs : l ∈ K.elements := by
    have value := knownA.belongs solution.belongs
    rwa [level] at value
  have members := upperLevels_known based knownA
  apply lawful.le_meetAll members belongs
  intro u member
  have upperKnown : (Operand.literal (.level u)).Known K := members u member
  have below := solution.le_of_flows lawful based upperKnown (FlowGraph.mem_upperLevels.mp member)
  rw [level] at below
  exact below

/-- If two operands can hold levels together and no chain leads from the first to the second,
some solution gives the first at least its highest level while the second has its lowest. -/
theorem exists_extremes (together : (ofSet K cs).admits [] [a, b] [] = true)
    (apart : ¬ Flows cs a b) :
    ∃ σ l u, Solution K cs σ ∧ a.value σ = .level l ∧ b.value σ = .level u ∧
      K.le ((ofSet K cs).highestLevel a) l = true ∧ K.le u ((ofSet K cs).lowestLevel b) = true := by
  have above := upperLevels_known based knownA
  have below := lowerLevels_known based knownB
  have highest := highestLevel_mem lawful based knownA
  have lowest := lowestLevel_mem lawful based knownB
  obtain ⟨E, raising⟩ : ∃ E, E = Demands.raising K a ((ofSet K cs).highestLevel a) b := ⟨_, rfl⟩
  have demanded : E.Known K := raising ▸ Demands.raising_known lawful knownA knownB highest
  have entries : ∀ p ∈ E.levels, p = (a, (ofSet K cs).highestLevel a) ∨ p = (b, K.bottom) := by
    simp [raising, Demands.raising]
  have consistent : Consistent K cs E := by
    obtain ⟨kinds, _⟩ :=
      (admits_iff_consistent lawful based (by simp) (by simp [knownA, knownB])).mp together
    refine kinds.relevel (by rw [raising]; rfl) (by rw [raising]; rfl) ?_
    intro u known l member
    rcases mem_levelsInto.mp member with literal | ⟨p, listed, rfl, flows⟩
    · exact kinds.bounded u known l (mem_levelsInto.mpr (Or.inl literal))
    · rcases entries p listed with rfl | rfl
      · exact lawful.meetAll_le above (FlowGraph.mem_upperLevels.mpr flows)
      · exact lawful.bottom_le u known
  have met := consistent.met lawful based demanded
  obtain ⟨l, left, raised⟩ := Value.level_le_iff.mp
    (met.levels (a, (ofSet K cs).highestLevel a) (by simp [raising, Demands.raising]))
  have holds : levelsInto cs E b ≠ [] :=
    levelsInto_ne_nil_iff.mpr (Or.inr ⟨(b, K.bottom), by simp [raising, Demands.raising], .refl⟩)
  have right : b.value (leastValuation K cs E) = .level (K.joinAll (levelsInto cs E b)) := by
    rw [consistent.value_least lawful based demanded knownB]
    exact least_of_levels (consistent.not_dynInto knownB holds) holds
  refine ⟨_, l, _, consistent.solution lawful based demanded, left, right, raised, ?_⟩
  apply lawful.joinAll_le (levelsInto_known based demanded knownB) lowest
  intro u member
  rcases mem_levelsInto.mp member with literal | ⟨p, listed, rfl, flows⟩
  · exact lawful.le_joinAll below (FlowGraph.mem_lowerLevels.mpr literal)
  · rcases entries p listed with rfl | rfl
    · exact absurd flows apart
    · exact lawful.bottom_le _ lowest

/-- Levels of the two sides of a flow are in order when the extremes are. -/
theorem le_of_extremes (ordered : K.le ((ofSet K cs).highestLevel a)
    ((ofSet K cs).lowestLevel b) = true) (solution : Solution K cs σ) {l u : Level}
    (left : a.value σ = .level l) (right : b.value σ = .level u) : K.le l u = true := by
  have lKnown : (Value.level l).Belongs K := left ▸ knownA.belongs solution.belongs
  have uKnown : (Value.level u).Belongs K := right ▸ knownB.belongs solution.belongs
  have highest := highestLevel_mem lawful based knownA
  have lowest := lowestLevel_mem lawful based knownB
  have upper := lawful.trans _ highest _ lowest u uKnown ordered
    (lowestLevel_le lawful based knownB solution right)
  exact lawful.trans l lKnown _ highest u uKnown
    (le_highestLevel lawful based knownA solution left) upper

/-- The extremes are in order when the two sides of a flow, able to hold levels together,
are so in every solution. -/
theorem extremes_le (together : (ofSet K cs).admits [] [a, b] [] = true)
    (apart : ¬ Flows cs a b)
    (entailed : ∀ σ, Solution K cs σ → Value.le K (a.value σ) (b.value σ) = true) :
    K.le ((ofSet K cs).highestLevel a) ((ofSet K cs).lowestLevel b) = true := by
  obtain ⟨σ, l, u, solution, left, right, raised, lowered⟩ :=
    exists_extremes lawful based knownA knownB together apart
  have below : K.le l u = true := by
    have held := entailed σ solution
    rwa [left, right] at held
  have lKnown : (Value.level l).Belongs K := left ▸ knownA.belongs solution.belongs
  have uKnown : (Value.level u).Belongs K := right ▸ knownB.belongs solution.belongs
  have highest := highestLevel_mem lawful based knownA
  have lowest := lowestLevel_mem lawful based knownB
  exact lawful.trans _ highest l lKnown _ lowest raised
    (lawful.trans l lKnown u uKnown _ lowest below lowered)

theorem entailsFlow_iff (sat : (ofSet K cs).isSat = true) (different : a ≠ b) :
    (ofSet K cs).entailsFlow a b = true ↔
      ∀ σ, Solution K cs σ → Value.le K (a.value σ) (b.value σ) = true := by
  unfold entailsFlow
  split
  · rename_i lower upper
    obtain ⟨σ, solution⟩ := (isSat_iff lawful based).mp sat
    rw [ofSet_lattice, Literal.le_eq]
    exact ⟨fun below _ _ => below, fun below => below σ solution⟩
  · simp only [Bool.or_eq_true, Bool.and_eq_true, Bool.not_eq_true', ofSet_graph, ofSet_lattice,
      FlowGraph.reaches_iff, ← Bool.not_eq_true, breaksByKind_iff lawful based knownA knownB]
    constructor
    · rintro (⟨_, flows⟩ | ⟨unbroken, levels⟩) σ solution
      · exact solution.le_of_flows lawful based knownB flows
      · by_cases mixed : (∃ l, a.value σ = .level l) ∧ ∃ u, b.value σ = .level u
        · obtain ⟨⟨l, left⟩, u, right⟩ := mixed
          have together : (ofSet K cs).admits [] [a, b] [] = true := by
            apply (admits_iff lawful based (by simp) (by simp [knownA, knownB]) (by simp)).mpr
            exact ⟨σ, solution, by simp, by simp [left, right], by simp⟩
          have ordered := levels.resolve_left (fun never => never together)
          rw [left, right]
          exact le_of_extremes lawful based knownA knownB ordered solution left right
        · by_cases below : Value.le K (a.value σ) (b.value σ) = true
          · exact below
          · exact absurd ⟨σ, solution, below, mixed⟩ unbroken
    · intro entailed
      by_cases flows : Flows cs a b
      · exact Or.inl ⟨different, flows⟩
      · refine Or.inr ⟨?_, ?_⟩
        · rintro ⟨σ, solution, broken, _⟩
          exact broken (entailed σ solution)
        · by_cases together : (ofSet K cs).admits [] [a, b] [] = true
          · exact Or.inr (extremes_le lawful based knownA knownB together flows entailed)
          · exact Or.inl together

theorem entailsImplies_iff :
    (ofSet K cs).entailsImplies a b = true ↔
      ∀ σ, Solution K cs σ → (a.value σ).implies (b.value σ) = true := by
  simp only [entailsImplies, Bool.or_eq_true, Bool.not_eq_true', ← Bool.not_eq_true,
    decide_eq_true_eq, ofSet_graph, FlowGraph.mem_spreadsTo, List.mem_singleton, forall_eq,
    List.not_mem_nil, false_imp_iff, forall_const, true_and, and_true, admits_iff, lawful, based,
    knownA, knownB, Value.implies_iff]
  constructor
  · rintro (⟨_, spreads⟩ | unbroken) σ solution dynamic
    · exact solution.dyn_of_spreads spreads dynamic
    · cases right : b.value σ with
      | pub => exact absurd (Or.inr ⟨σ, solution, dynamic, right⟩) unbroken
      | dyn => rfl
      | level u => exact absurd (Or.inl ⟨σ, solution, dynamic, u, right⟩) unbroken
  · intro entailed
    refine Or.inr ?_
    rintro (⟨σ, solution, dynamic, u, right⟩ | ⟨σ, solution, dynamic, right⟩)
    all_goals simp [entailed σ solution dynamic] at right

end Entailment

theorem entailsCompatible_iff (lawful : K.Lawful) (based : cs.Over K) {c : Flow}
    (knownLhs : c.lhs.Known K) (knownRhs : c.rhs.Known K) :
    (ofSet K cs).entailsCompatible c = true ↔
      ∀ σ, Solution K cs σ → (c.lhs.value σ).compatible (c.rhs.value σ) = true := by
  simp only [entailsCompatible, Bool.or_eq_true, Bool.not_eq_true', ← Bool.not_eq_true,
    decide_eq_true_eq, ofSet_graph, FlowGraph.mem_compatibilities, FlowGraph.related_iff,
    List.mem_singleton, forall_eq, List.not_mem_nil, false_imp_iff, forall_const, and_true,
    admits_iff, lawful, based, knownLhs, knownRhs]
  constructor
  · rintro ((⟨member, kind, _⟩ | ⟨_, forward | backward⟩) | unbroken) σ solution
    · have held := solution.holds c member
      rwa [Flow.holds, kind] at held
    · exact Value.compatible_of_le (solution.le_of_flows lawful based knownRhs forward)
    · rw [Value.compatible_comm]
      exact Value.compatible_of_le (solution.le_of_flows lawful based knownLhs backward)
    · apply Value.compatible_iff.mpr
      constructor
      · rintro ⟨dynamic, level⟩
        exact unbroken (Or.inl ⟨σ, solution, dynamic, level⟩)
      · rintro ⟨dynamic, level⟩
        exact unbroken (Or.inr ⟨σ, solution, dynamic, level⟩)
  · intro entailed
    refine Or.inr ?_
    rintro (⟨σ, solution, dynamic, level⟩ | ⟨σ, solution, dynamic, level⟩)
    · exact (Value.compatible_iff.mp (entailed σ solution)).1 ⟨dynamic, level⟩
    · exact (Value.compatible_iff.mp (entailed σ solution)).2 ⟨dynamic, level⟩

/-- The closure entails what every solution of its set satisfies. -/
theorem entails_iff (lawful : K.Lawful) (based : cs.Over K) {c : Flow} (knownLhs : c.lhs.Known K)
    (knownRhs : c.rhs.Known K) : (ofSet K cs).entails c = true ↔ Entails K cs c := by
  by_cases trivial : c.lhs = c.rhs
  · have free : c.isTrivial = true := by simpa [Constraint.isTrivial] using trivial
    simp only [entails, free, Bool.true_or, true_iff]
    intro σ solution
    rw [Flow.holds, trivial]
    exact Value.holds_self lawful c.kind (knownRhs.belongs solution.belongs)
  · have bound : c.isTrivial = false := by simpa [Constraint.isTrivial] using trivial
    by_cases sat : (ofSet K cs).isSat = true
    · simp only [entails, bound, sat, Bool.not_true, Bool.false_or, Entails, Flow.holds]
      cases c.kind with
      | flow => exact entailsFlow_iff lawful based knownLhs knownRhs sat trivial
      | compatible => exact entailsCompatible_iff lawful based knownLhs knownRhs
      | implies => exact entailsImplies_iff lawful based knownLhs knownRhs
    · have none : (ofSet K cs).isSat = false := by simpa using sat
      simp only [entails, none, Bool.not_false, Bool.or_true, Bool.true_or, true_iff]
      intro σ solution
      exact absurd ((isSat_iff lawful based).mpr ⟨σ, solution⟩) sat

end Closure

/-- Entailment is exact: over every domain the question is answered, with yes exactly when
all solutions satisfy the constraint, so always for a set without solutions. -/
theorem entailment_exact {domain : Domain} (built : domain.Built) (based : cs.Over domain.lattice)
    {c : Flow} (knownLhs : c.lhs.Known domain.lattice) (knownRhs : c.rhs.Known domain.lattice) :
    Checked.entails domain cs c = .ok (cs.entails domain.lattice c) ∧
      (cs.entails domain.lattice c = true ↔ Entails domain.lattice cs c) ∧
      (cs.isSat domain.lattice = false → cs.entails domain.lattice c = true) := by
  have exact : cs.entails domain.lattice c = true ↔ Entails domain.lattice cs c :=
    Closure.entails_iff built.lawful based knownLhs knownRhs
  refine ⟨Checked.entails_eq built based knownLhs knownRhs, exact, ?_⟩
  intro unsat
  apply exact.mpr
  intro σ solution
  have sat : cs.isSat domain.lattice = true :=
    (Closure.isSat_iff built.lawful based).mpr ⟨σ, solution⟩
  rw [unsat] at sat
  cases sat

/-- Both middle levels of the diamond flow into a variable, and that into another. -/
def forkSample : ConstraintSet :=
  let named (name : String) : Operand := .literal (.level (.name name))
  let x (index : Int) : Operand := .var ⟨1, .fresh, index⟩
  .ofList [.make (named "left") .flow (x 0), .make (named "right") .flow (x 0),
    .make (x 0) .flow (x 1)]

/-- The join of the two levels leaves the variables no choice, so they flow both ways. -/
theorem entailment_exact_fork :
    let named (name : String) : Operand := .literal (.level (.name name))
    let x (index : Int) : Operand := .var ⟨1, .fresh, index⟩
    Domain.diamond.Built ∧ forkSample.Over Domain.diamond.lattice ∧
      (named "left").Known Domain.diamond.lattice ∧
      Entails Domain.diamond.lattice forkSample (.make (x 1) .flow (x 0)) ∧
      ¬ Entails Domain.diamond.lattice forkSample (.make (x 1) .flow (named "left")) := by
  have based : forkSample.Over Domain.diamond.lattice := by decide +kernel
  refine ⟨Domain.diamond_built, based, by decide +kernel, ?_, ?_⟩
  · refine (entailment_exact Domain.diamond_built based ?_ ?_).2.1.mp ?_
    all_goals decide +kernel
  · intro entailed
    have answer := (entailment_exact Domain.diamond_built based (by decide +kernel)
      (by decide +kernel)).2.1.mpr entailed
    revert answer
    decide +kernel

end FlowTyping
