import FlowTyping.Proofs.LeastAssignment

namespace FlowTyping

variable {K : LevelLattice Level} {cs : ConstraintSet} {σ : Valuation} {v : TypeVar}

/-- The values that a closure gives to the variables. -/
def Closure.reading (c : Closure) : Valuation := fun v =>
  if .var v ∈ c.forced then .dyn
  else if .var v ∈ c.static then ((c.leastLevel? (.var v)).map Value.level).getD .pub
  else .pub

namespace Closure

theorem mem_forced_var : .var v ∈ (ofSet K cs).forced ↔ DynInto cs .none (.var v) := by
  show .var v ∈ (FlowGraph.ofSet cs).forcedNodes ↔ _
  rw [FlowGraph.mem_forcedNodes, dynInto_none]
  constructor
  · exact And.right
  · intro spreads
    exact ⟨(mentioned_of_chain (by simp) spreads).2, spreads⟩

theorem mem_static_var : .var v ∈ (ofSet K cs).static ↔ levelsInto cs .none (.var v) ≠ [] := by
  show .var v ∈ (FlowGraph.ofSet cs).staticNodes ↔ _
  rw [FlowGraph.mem_staticNodes, levelsInto_none]
  constructor
  · exact And.right
  · intro lower
    obtain ⟨l, flows⟩ := lower
    exact ⟨(mentioned_of_chain (by simp) flows).2, l, flows⟩

theorem reading_eq (consistent : Consistent K cs .none) :
    (ofSet K cs).reading = leastValuation K cs .none := by
  funext v
  show _ = least K cs .none (.var v)
  unfold reading
  by_cases dynamic : DynInto cs .none (.var v)
  · rw [if_pos (mem_forced_var.mpr dynamic), least_of_dynInto dynamic]
  · rw [if_neg (fun forced => dynamic (mem_forced_var.mp forced))]
    by_cases holds : levelsInto cs .none (.var v) = []
    · rw [if_neg (fun static => mem_static_var.mp static holds), least_of_nothing dynamic holds]
    · rw [if_pos (mem_static_var.mpr holds), leastLevel?_of_levelsInto consistent holds,
        least_of_levels dynamic holds]
      rfl

end Closure

namespace Assignment

theorem insertBinding_last {level : Level} {bindings : List (TypeVar × Level)}
    (later : ∀ p ∈ bindings, compare p.1 v = .lt) :
    insertBinding v level bindings = bindings ++ [(v, level)] := by
  induction bindings with
  | nil => rfl
  | cons first rest ih =>
    have after : compare v first.1 = .gt := Std.OrientedCmp.gt_of_lt (later first (by simp))
    have rest' := ih fun p member => later p (List.mem_cons_of_mem first member)
    simp [insertBinding, after, rest']

theorem bind_last {level : Level} {bindings : List (TypeVar × Level)}
    (later : ∀ p ∈ bindings, compare p.1 v = .lt) :
    (Assignment.mk bindings).bind v (.level level) = .ok ⟨bindings ++ [(v, level)]⟩ := by
  have missing : (Assignment.mk bindings).get? v = none := by
    apply List.lookup_eq_none_iff.mpr
    intro p member
    have apart : v ≠ p.1 := by
      intro same
      have less := later p member
      rw [← same] at less
      exact Std.OrientedCmp.not_lt_of_lt less less
    simpa using apart
  simp [bind, missing, insertBinding_last later]

/-- Bindings in the order of their variables can be made one after the other. -/
theorem bind_all {done bindings : List (TypeVar × Level)}
    (increasing : (done ++ bindings).Pairwise (fun p q => compare p.1 q.1 = .lt)) :
    bindings.foldlM (fun a p => a.bind p.1 (.level p.2)) (Assignment.mk done) =
      .ok ⟨done ++ bindings⟩ := by
  induction bindings generalizing done with
  | nil => simp [pure, Except.pure]
  | cons first rest ih =>
    have later : ∀ p ∈ done, compare p.1 first.1 = .lt := by
      intro p member
      exact (List.pairwise_append.mp increasing).2.2 p member first (by simp)
    have regrouped : done ++ first :: rest = done ++ [first] ++ rest := by simp
    rw [List.foldlM_cons, bind_last later, regrouped]
    exact ih (regrouped ▸ increasing)

end Assignment

/-- The valuation by levels with the bottom for what is no level. -/
def Valuation.levelled (K : LevelLattice Level) (σ : Valuation) : Valuation := fun v =>
  .level ((σ v).levelOrBottom K)

theorem Value.levelOrBottom_mem (lawful : K.Lawful) {x : Value} (belongs : x.Belongs K) :
    x.levelOrBottom K ∈ K.elements := by
  cases x with
  | pub => exact lawful.bottom_mem
  | dyn => exact lawful.bottom_mem
  | level l => exact belongs

theorem Operand.value_levelled {n : Operand} (other : n ≠ .literal .dyn) :
    n.value (σ.levelled K) = .level ((n.value σ).levelOrBottom K) := by
  cases n with
  | literal l =>
    cases l with
    | dyn => exact absurd rfl other
    | level l => rfl
  | var v => rfl

/-- Where nothing is dynamic, the public value can be raised to the bottom. -/
theorem Kind.holds_levelOrBottom (lawful : K.Lawful) (kind : Kind) {x y : Value}
    (belongs : y.Belongs K) (static : x ≠ .dyn) (holds : kind.holds K x y = true) :
    kind.holds K (.level (x.levelOrBottom K)) (.level (y.levelOrBottom K)) = true := by
  cases kind with
  | compatible => rfl
  | implies => rfl
  | flow =>
    cases x with
    | pub => exact lawful.bottom_le _ (Value.levelOrBottom_mem lawful belongs)
    | dyn => exact absurd rfl static
    | level l =>
      obtain ⟨u, rfl, below⟩ := Value.level_le_iff.mp holds
      exact below

theorem Solution.levelled (solution : Solution K cs σ) (lawful : K.Lawful) (based : cs.Over K)
    (unmarked : ¬ Mentioned cs (.literal .dyn)) (static : ∀ v, σ v ≠ .dyn) :
    Solution K cs (σ.levelled K) := by
  refine ⟨fun v => Value.levelOrBottom_mem lawful (solution.belongs v), ?_⟩
  intro c member
  have left : c.lhs ≠ .literal .dyn := fun same => unmarked ⟨c, member, Or.inl same⟩
  have right : c.rhs ≠ .literal .dyn := fun same => unmarked ⟨c, member, Or.inr same⟩
  have leftStatic : c.lhs.value σ ≠ .dyn := by
    rcases side : c.lhs with (_ | l) | v
    · exact absurd side left
    · simp [Operand.value, Value.ofLiteral]
    · exact static v
  rw [Flow.holds, Operand.value_levelled left, Operand.value_levelled right]
  exact c.kind.holds_levelOrBottom lawful ((based.known member).2.belongs solution.belongs)
    leftStatic (solution.holds c member)

theorem leastValuation_ne_dyn (unmarked : ¬ Mentioned cs (.literal .dyn)) :
    leastValuation K cs .none v ≠ .dyn := by
  have static : ¬ DynInto cs .none (.var v) := by
    intro dynamic
    exact unmarked (mentioned_of_chain (by simp) (dynInto_none.mp dynamic)).1
  show least K cs .none (.var v) ≠ .dyn
  by_cases holds : levelsInto cs .none (.var v) = []
  · simp [least_of_nothing static holds]
  · simp [least_of_levels static holds]

section Satisfiable

variable {domain : Domain} (built : domain.Built) (based : cs.Over domain.lattice)
variable (sat : cs.isSat domain.lattice = true)
include built based sat

/-- A satisfiable set has an assignment whatever is fixed: bindings made one after the other,
each to the level that the closure reads, or to the bottom. -/
theorem leastAssignment_reading (fixed : List TypeVar) :
    ∃ assignment, Checked.leastAssignment domain cs fixed = .ok (some assignment) ∧
      assignment.bindings.foldlM (fun a p => a.bind p.1 (.level p.2)) Assignment.empty =
        .ok assignment ∧
      ∀ v, assignment.get? v =
        if v ∈ cs.vars ∧ v ∉ fixed then
          some (((Closure.ofSet domain.lattice cs).reading v).levelOrBottom domain.lattice)
        else none := by
  have consistent := (Closure.isSat_iff_consistent built.lawful based).mp sat
  have computed := leastAssignment?_of_sat built.lawful based sat fixed
  rw [← Closure.reading_eq consistent] at computed
  refine ⟨_, (Checked.leastAssignment_eq built based fixed).trans (congrArg _ computed), ?_, ?_⟩
  · apply Assignment.bind_all
    rw [List.nil_append, List.pairwise_map]
    exact cs.vars.increasing.filter _
  · intro v
    show List.lookup v _ = _
    rw [lookup_tabulated]
    simp [SortedSet.mem_def]

/-- Without the marker the assignment itself satisfies every constraint, and no solution by
levels goes below it. -/
theorem leastAssignment_satisfies (unmarked : ¬ Mentioned cs (.literal .dyn)) :
    ∃ assignment, Checked.leastAssignment domain cs [] = .ok (some assignment) ∧
      (∀ c ∈ cs, ∃ x y, assignment.valueOf? c.lhs = some x ∧ assignment.valueOf? c.rhs = some y ∧
        c.kind.holds domain.lattice (.ofLiteral x) (.ofLiteral y) = true) ∧
      ∀ σ, Solution domain.lattice cs σ → (∀ v ∈ cs.vars, ∃ u, σ v = .level u) →
        ∀ v ∈ cs.vars, ∃ l u, assignment.get? v = some l ∧ σ v = .level u ∧
          domain.lattice.le l u = true := by
  have lawful := built.lawful
  have consistent := (Closure.isSat_iff_consistent lawful based).mp sat
  have least := consistent.solution lawful based Demands.none_known
  have satisfied := least.levelled lawful based unmarked fun v => leastValuation_ne_dyn unmarked
  obtain ⟨assignment, computed, _, levels⟩ := leastAssignment_reading built based sat []
  rw [Closure.reading_eq consistent] at levels
  have bound : ∀ v ∈ cs.vars, assignment.get? v =
      some ((leastValuation domain.lattice cs .none v).levelOrBottom domain.lattice) := by
    intro v listed
    rw [levels v, if_pos ⟨listed, by simp⟩]
  have valued : ∀ n, Mentioned cs n → ∃ x, assignment.valueOf? n = some x ∧
      Value.ofLiteral x = n.value ((leastValuation domain.lattice cs .none).levelled
        domain.lattice) := by
    intro n mentioned
    cases n with
    | literal l => exact ⟨l, rfl, rfl⟩
    | var v =>
      have level := bound v (ConstraintSet.mem_vars.mpr mentioned)
      exact ⟨.level _, by rw [Assignment.valueOf?, level]; rfl, rfl⟩
  refine ⟨assignment, computed, ?_, ?_⟩
  · intro c member
    obtain ⟨x, left, valueLeft⟩ := valued c.lhs ⟨c, member, Or.inl rfl⟩
    obtain ⟨y, right, valueRight⟩ := valued c.rhs ⟨c, member, Or.inr rfl⟩
    refine ⟨x, y, left, right, ?_⟩
    rw [valueLeft, valueRight]
    exact satisfied.holds c member
  · intro σ solution byLevels v listed
    obtain ⟨u, level⟩ := byLevels v listed
    refine ⟨_, u, bound v listed, level, ?_⟩
    have below := solution.leastValuation_le lawful based v
    have belongs := solution.belongs v
    rw [level] at below belongs
    exact Kind.holds_levelOrBottom lawful .flow belongs (leastValuation_ne_dyn unmarked) below

end Satisfiable

/-- The assignment is the least solution. On a satisfiable set the values that the closure
gives are well defined, solve the set and lie below every solution; the assignment binds
exactly the variables that are not fixed, to these values where they are levels and to the
bottom elsewhere. Without the marker it solves the set and lies below every solution by
levels. A set without solutions has no assignment. -/
theorem assignment_least {domain : Domain} (built : domain.Built)
    (based : cs.Over domain.lattice) :
    (cs.isSat domain.lattice = false →
      ∀ fixed, Checked.leastAssignment domain cs fixed = .ok none) ∧
    (cs.isSat domain.lattice = true →
      ∃ closure, Checked.closure domain cs = .ok closure ∧
        (∀ v, .var v ∈ closure.forced → .var v ∉ closure.static) ∧
        (∀ v, .var v ∈ closure.static → ∃ l,
          Checked.leastLevel domain closure.graph (.var v) = .ok (some l) ∧
            closure.reading v = .level l) ∧
        Solution domain.lattice cs closure.reading ∧
        (∀ σ, Solution domain.lattice cs σ →
          ∀ v, Value.le domain.lattice (closure.reading v) (σ v) = true) ∧
        (∀ fixed, ∃ assignment,
          Checked.leastAssignment domain cs fixed = .ok (some assignment) ∧
          assignment.bindings.foldlM (fun a p => a.bind p.1 (.level p.2)) Assignment.empty =
            .ok assignment ∧
          ∀ v, assignment.get? v =
            if v ∈ cs.vars ∧ v ∉ fixed then
              some ((closure.reading v).levelOrBottom domain.lattice)
            else none) ∧
        (¬ Mentioned cs (.literal .dyn) → ∃ assignment,
          Checked.leastAssignment domain cs [] = .ok (some assignment) ∧
          (∀ c ∈ cs, ∃ x y,
            assignment.valueOf? c.lhs = some x ∧ assignment.valueOf? c.rhs = some y ∧
              c.kind.holds domain.lattice (.ofLiteral x) (.ofLiteral y) = true) ∧
          ∀ σ, Solution domain.lattice cs σ → (∀ v ∈ cs.vars, ∃ u, σ v = .level u) →
            ∀ v ∈ cs.vars, ∃ l u, assignment.get? v = some l ∧ σ v = .level u ∧
              domain.lattice.le l u = true)) := by
  have lawful := built.lawful
  constructor
  · intro unsat fixed
    rw [Checked.leastAssignment_eq built based]
    show Except.ok (if cs.isSat domain.lattice = true then _ else _) = _
    simp [unsat]
  · intro sat
    have consistent := (Closure.isSat_iff_consistent lawful based).mp sat
    have reading := Closure.reading_eq consistent
    refine ⟨_, Checked.closure_eq built based, ?_, ?_, ?_, ?_,
      leastAssignment_reading built based sat, leastAssignment_satisfies built based sat⟩
    · intro v forced static
      exact consistent.apart (.var v) trivial
        ⟨Closure.mem_forced_var.mp forced, Closure.mem_static_var.mp static⟩
    · intro v static
      have known : (Operand.var v).Known domain.lattice := trivial
      have holds := Closure.mem_static_var.mp static
      have level := leastLevel?_of_levelsInto consistent holds
      refine ⟨_, (Checked.leastLevel_eq built based known).trans (congrArg _ level), ?_⟩
      rw [reading]
      exact least_of_levels (consistent.not_dynInto known holds) holds
    · rw [reading]
      exact consistent.solution lawful based Demands.none_known
    · intro σ solution v
      rw [reading]
      exact solution.leastValuation_le lawful based v

/-- A cycle between two variables with a level below each, two variables that are dynamic
through an implication alone, and one that is free. -/
def cycleSample : ConstraintSet :=
  let named (name : String) : Operand := .literal (.level (.name name))
  let x (index : Int) : Operand := .var ⟨1, .fresh, index⟩
  .ofList [.make (named "left") .flow (x 0), .make (x 0) .flow (x 1), .make (x 1) .flow (x 0),
    .make (named "right") .flow (x 1), .make (.literal .dyn) .implies (x 2),
    .make (x 2) .flow (x 3), .make (x 4) .compatible (x 3)]

theorem assignment_least_cycle :
    let x (index : Int) : TypeVar := ⟨1, .fresh, index⟩
    Domain.diamond.Built ∧ cycleSample.Over Domain.diamond.lattice ∧
      ∃ assignment,
        Checked.leastAssignment Domain.diamond cycleSample [x 1] = .ok (some assignment) ∧
        assignment.get? (x 0) = some (.name "top") ∧ assignment.get? (x 1) = none ∧
        assignment.get? (x 2) = some (.name "bottom") := by
  intro x
  have based : cycleSample.Over Domain.diamond.lattice := by decide +kernel
  have sat : cycleSample.isSat Domain.diamond.lattice = true := by decide +kernel
  obtain ⟨closure, closed, _, _, _, _, assigned, _⟩ :=
    (assignment_least Domain.diamond_built based).2 sat
  obtain rfl := Except.ok.inj ((Checked.closure_eq Domain.diamond_built based).symm.trans closed)
  obtain ⟨assignment, computed, _, levels⟩ := assigned [x 1]
  refine ⟨Domain.diamond_built, based, assignment, computed, ?_, ?_, ?_⟩
  all_goals
    rw [levels]
    decide +kernel

end FlowTyping
