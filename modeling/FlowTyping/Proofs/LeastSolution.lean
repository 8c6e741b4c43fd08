import FlowTyping.Proofs.Solutions

/-!
The least solution of a set under demands. A demand asks that an operand be dynamic, or
that it hold at least a level; literals demand their own value. The candidate makes an
operand dynamic when something dynamic spreads to it, gives it the join of the levels that
flow into it, and leaves it public otherwise. The candidate solves the set and meets the
demands exactly when they are consistent, which says three things about chains of
constraints only, and it lies below every other solution that meets them.
-/

namespace FlowTyping

variable {K : LevelLattice Level} {cs : ConstraintSet} {σ : Valuation} {a b n : Operand}

/-- What a solution is asked for beside the constraints: operands that are dynamic, and
operands that hold at least a level. -/
structure Demands where
  dyn : List Operand
  levels : List (Operand × Level)

namespace Demands

def none : Demands := ⟨[], []⟩

/-- All that is demanded belongs to the lattice. -/
structure Known (K : LevelLattice Level) (D : Demands) : Prop where
  dyn : ∀ n ∈ D.dyn, n.Known K
  operand : ∀ p ∈ D.levels, p.1.Known K
  level : ∀ p ∈ D.levels, p.2 ∈ K.elements

/-- A valuation gives what is demanded. -/
structure Met (K : LevelLattice Level) (D : Demands) (σ : Valuation) : Prop where
  dyn : ∀ n ∈ D.dyn, n.value σ = .dyn
  levels : ∀ p ∈ D.levels, Value.le K (.level p.2) (p.1.value σ) = true

theorem none_known : none.Known K := ⟨by simp [none], by simp [none], by simp [none]⟩

theorem none_met : none.Met K σ := ⟨by simp [none], by simp [none]⟩

end Demands

variable {D : Demands}

/-- Something dynamic, the marker or a demand, spreads to an operand. -/
def DynInto (cs : ConstraintSet) (D : Demands) (n : Operand) : Prop :=
  Spreads cs (.literal .dyn) n ∨ ∃ d ∈ D.dyn, Spreads cs d n

instance (cs : ConstraintSet) (a b : Operand) : Decidable (Flows cs a b) :=
  decidable_of_iff (a = b ∨ (FlowGraph.ofSet cs).reaches a b = true) (by
    rw [FlowGraph.reaches_iff]
    by_cases same : a = b
    · subst same
      simp [Relation.ReflTransGen.refl]
    · simp [same])

instance (cs : ConstraintSet) (a b : Operand) : Decidable (Spreads cs a b) :=
  decidable_of_iff (a = b ∨ b ∈ (FlowGraph.ofSet cs).spreadsTo a) (by
    rw [FlowGraph.mem_spreadsTo]
    by_cases same : a = b
    · subst same
      simp [Relation.ReflTransGen.refl]
    · simp [same])

instance : Decidable (DynInto cs D n) := by
  unfold DynInto
  infer_instance

/-- The levels that flow into an operand, from literals and from demands. -/
def levelsInto (cs : ConstraintSet) (D : Demands) (n : Operand) : List Level :=
  (n :: (FlowGraph.ofSet cs).lowerLiterals n).filterMap Operand.level? ++
    (D.levels.filter (fun p => decide (Flows cs p.1 n))).map Prod.snd

theorem mem_levelsInto {l : Level} :
    l ∈ levelsInto cs D n ↔
      Flows cs (.literal (.level l)) n ∨ ∃ p ∈ D.levels, p.2 = l ∧ Flows cs p.1 n := by
  rw [levelsInto, List.mem_append, FlowGraph.mem_lowerLevels, List.mem_map]
  simp only [List.mem_filter, decide_eq_true_eq]
  constructor
  · rintro (literal | ⟨p, ⟨member, flows⟩, same⟩)
    · exact Or.inl literal
    · exact Or.inr ⟨p, member, same, flows⟩
  · rintro (literal | ⟨p, member, same, flows⟩)
    · exact Or.inl literal
    · exact Or.inr ⟨p, ⟨member, flows⟩, same⟩

theorem levelsInto_ne_nil_iff :
    levelsInto cs D n ≠ [] ↔
      (∃ l, Flows cs (.literal (.level l)) n) ∨ ∃ p ∈ D.levels, Flows cs p.1 n := by
  constructor
  · intro holds
    obtain ⟨l, member⟩ := List.exists_mem_of_ne_nil _ holds
    rcases mem_levelsInto.mp member with literal | ⟨p, listed, _, flows⟩
    · exact Or.inl ⟨l, literal⟩
    · exact Or.inr ⟨p, listed, flows⟩
  · rintro (⟨l, literal⟩ | ⟨p, listed, flows⟩)
    · exact List.ne_nil_of_mem (mem_levelsInto.mpr (Or.inl literal))
    · exact List.ne_nil_of_mem (mem_levelsInto.mpr (Or.inr ⟨p, listed, rfl, flows⟩))

/-- The candidate: dynamic, the join of the levels below, or public. -/
def least (K : LevelLattice Level) (cs : ConstraintSet) (D : Demands) (n : Operand) : Value :=
  if DynInto cs D n then .dyn
  else if levelsInto cs D n = [] then .pub
  else .level (K.joinAll (levelsInto cs D n))

def leastValuation (K : LevelLattice Level) (cs : ConstraintSet) (D : Demands) : Valuation :=
  fun v => least K cs D (.var v)

/-- One operand is dynamic while the other holds a level. -/
def Clash (cs : ConstraintSet) (D : Demands) (a b : Operand) : Prop :=
  DynInto cs D a ∧ levelsInto cs D b ≠ []

/-- The chains of a set carry no contradiction under demands: no operand is dynamic and a
level at once, no level flows into a literal that is not above it, and no compatibility
joins a dynamic operand with one that holds a level. -/
structure Consistent (K : LevelLattice Level) (cs : ConstraintSet) (D : Demands) : Prop where
  apart : ∀ n, n.Known K → ¬ Clash cs D n n
  bounded : ∀ u ∈ K.elements, ∀ l ∈ levelsInto cs D (.literal (.level u)), K.le l u = true
  compatible : ∀ c ∈ cs, c.kind = .compatible →
    ¬ Clash cs D c.lhs c.rhs ∧ ¬ Clash cs D c.rhs c.lhs

theorem DynInto.spread (dynamic : DynInto cs D a) (spreads : Spreads cs a b) :
    DynInto cs D b := by
  rcases dynamic with marker | ⟨d, member, earlier⟩
  · exact Or.inl (marker.trans spreads)
  · exact Or.inr ⟨d, member, earlier.trans spreads⟩

theorem levelsInto_subset (flows : Flows cs a b) {l : Level} (member : l ∈ levelsInto cs D a) :
    l ∈ levelsInto cs D b := by
  rcases mem_levelsInto.mp member with literal | ⟨p, listed, same, earlier⟩
  · exact mem_levelsInto.mpr (Or.inl (literal.trans flows))
  · exact mem_levelsInto.mpr (Or.inr ⟨p, listed, same, earlier.trans flows⟩)

theorem levelsInto_known (based : cs.Over K) (demanded : D.Known K) (known : n.Known K) :
    ∀ l ∈ levelsInto cs D n, l ∈ K.elements := by
  intro l member
  rcases mem_levelsInto.mp member with literal | ⟨p, listed, rfl, _⟩
  · exact Flows.known based literal known
  · exact demanded.level p listed

theorem least_of_dynInto (dynamic : DynInto cs D n) : least K cs D n = .dyn := by
  simp [least, dynamic]

theorem least_of_levels (static : ¬ DynInto cs D n) (holds : levelsInto cs D n ≠ []) :
    least K cs D n = .level (K.joinAll (levelsInto cs D n)) := by
  simp [least, static, holds]

theorem least_of_nothing (static : ¬ DynInto cs D n) (empty : levelsInto cs D n = []) :
    least K cs D n = .pub := by
  simp [least, static, empty]

theorem least_belongs (lawful : K.Lawful) (based : cs.Over K) (demanded : D.Known K)
    (known : n.Known K) : (least K cs D n).Belongs K := by
  unfold least
  split
  · trivial
  · split
    · trivial
    · exact lawful.joinAll_mem (levelsInto_known based demanded known)

/-- The candidate stays below whatever all that comes in stays below. -/
theorem least_le (lawful : K.Lawful) (based : cs.Over K) (demanded : D.Known K)
    (known : n.Known K) {x : Value} (belongs : x.Belongs K) (dynamic : DynInto cs D n → x = .dyn)
    (above : ∀ l ∈ levelsInto cs D n, Value.le K (.level l) x = true) :
    Value.le K (least K cs D n) x = true := by
  by_cases into : DynInto cs D n
  · rw [least_of_dynInto into, dynamic into]
    rfl
  · by_cases empty : levelsInto cs D n = []
    · rw [least_of_nothing into empty]
      rfl
    · rw [least_of_levels into empty]
      obtain ⟨l, member⟩ := List.exists_mem_of_ne_nil _ empty
      obtain ⟨u, rfl, _⟩ := Value.level_le_iff.mp (above l member)
      apply lawful.joinAll_le (levelsInto_known based demanded known) belongs
      intro k there
      exact above k there

namespace Consistent

theorem not_dynInto (consistent : Consistent K cs D) (known : n.Known K)
    (holds : levelsInto cs D n ≠ []) : ¬ DynInto cs D n :=
  fun dynamic => consistent.apart n known ⟨dynamic, holds⟩

theorem value_least (consistent : Consistent K cs D) (lawful : K.Lawful) (based : cs.Over K)
    (demanded : D.Known K) (known : n.Known K) :
    n.value (leastValuation K cs D) = least K cs D n := by
  rcases n with (_ | u) | v
  · exact (least_of_dynInto (Or.inl .refl)).symm
  · have self : u ∈ levelsInto cs D (.literal (.level u)) := mem_levelsInto.mpr (Or.inl .refl)
    have holds : levelsInto cs D (.literal (.level u)) ≠ [] := List.ne_nil_of_mem self
    have members := levelsInto_known based demanded known
    rw [least_of_levels (consistent.not_dynInto known holds) holds]
    have same : u = K.joinAll (levelsInto cs D (.literal (.level u))) := by
      apply lawful.antisymm u known _ (lawful.joinAll_mem members)
      · exact lawful.le_joinAll members self
      · exact lawful.joinAll_le members known (consistent.bounded u known)
    exact congrArg Value.level same
  · rfl

private theorem least_flow (consistent : Consistent K cs D) (lawful : K.Lawful)
    (based : cs.Over K) (demanded : D.Known K) (known : b.Known K) (flows : Flows cs a b) :
    Value.le K (least K cs D a) (least K cs D b) = true := by
  have startKnown : a.Known K := flows.known based known
  have members := levelsInto_known based demanded known
  apply least_le lawful based demanded startKnown (least_belongs lawful based demanded known)
  · intro dynamic
    exact least_of_dynInto (dynamic.spread flows.spreads)
  · intro l member
    have there : l ∈ levelsInto cs D b := levelsInto_subset flows member
    have holds : levelsInto cs D b ≠ [] := List.ne_nil_of_mem there
    rw [least_of_levels (consistent.not_dynInto known holds) holds]
    exact lawful.le_joinAll members there

private theorem dynInto_of_least (dynamic : least K cs D n = .dyn) : DynInto cs D n := by
  by_cases into : DynInto cs D n
  · exact into
  · by_cases empty : levelsInto cs D n = []
    · simp [least_of_nothing into empty] at dynamic
    · simp [least_of_levels into empty] at dynamic

private theorem levelsInto_of_least {l : Level} (level : least K cs D n = .level l) :
    levelsInto cs D n ≠ [] := by
  intro empty
  by_cases dynamic : DynInto cs D n
  · simp [least_of_dynInto dynamic] at level
  · simp [least_of_nothing dynamic empty] at level

theorem solution (consistent : Consistent K cs D) (lawful : K.Lawful) (based : cs.Over K)
    (demanded : D.Known K) : Solution K cs (leastValuation K cs D) where
  belongs v := least_belongs lawful based demanded trivial
  holds c member := by
    obtain ⟨lhsKnown, rhsKnown⟩ := based.known member
    rw [Flow.holds, consistent.value_least lawful based demanded lhsKnown,
      consistent.value_least lawful based demanded rhsKnown]
    cases kind : c.kind with
    | flow => exact consistent.least_flow lawful based demanded rhsKnown (.of_mem member kind)
    | compatible =>
      obtain ⟨forward, backward⟩ := consistent.compatible c member kind
      apply Value.compatible_iff.mpr
      constructor
      · rintro ⟨dynamic, l, level⟩
        exact forward ⟨dynInto_of_least dynamic, levelsInto_of_least level⟩
      · rintro ⟨dynamic, l, level⟩
        exact backward ⟨dynInto_of_least dynamic, levelsInto_of_least level⟩
    | implies =>
      apply Value.implies_iff.mpr
      intro dynamic
      have step : Spreads cs c.lhs c.rhs := .single ⟨c, member, by simp [kind], rfl, rfl⟩
      exact least_of_dynInto ((dynInto_of_least dynamic).spread step)

theorem met (consistent : Consistent K cs D) (lawful : K.Lawful) (based : cs.Over K)
    (demanded : D.Known K) : D.Met K (leastValuation K cs D) where
  dyn n member := by
    rw [consistent.value_least lawful based demanded (demanded.dyn n member)]
    exact least_of_dynInto (Or.inr ⟨n, member, .refl⟩)
  levels p member := by
    have known := demanded.operand p member
    have there : p.2 ∈ levelsInto cs D p.1 :=
      mem_levelsInto.mpr (Or.inr ⟨p, member, rfl, .refl⟩)
    have holds : levelsInto cs D p.1 ≠ [] := List.ne_nil_of_mem there
    rw [consistent.value_least lawful based demanded known,
      least_of_levels (consistent.not_dynInto known holds) holds]
    exact lawful.le_joinAll (levelsInto_known based demanded known) there

end Consistent

/-- In a solution that meets the demands, what something dynamic spreads to is dynamic. -/
theorem Solution.dyn_of_dynInto (solution : Solution K cs σ) (met : D.Met K σ)
    (dynamic : DynInto cs D n) : n.value σ = .dyn := by
  rcases dynamic with marker | ⟨d, member, spreads⟩
  · exact solution.dyn_of_spreads marker rfl
  · exact solution.dyn_of_spreads spreads (met.dyn d member)

/-- In a solution that meets the demands, the levels that flow into an operand are below
its value. -/
theorem Solution.le_of_levelsInto (solution : Solution K cs σ) (lawful : K.Lawful)
    (based : cs.Over K) (demanded : D.Known K) (met : D.Met K σ) (known : n.Known K) {l : Level}
    (member : l ∈ levelsInto cs D n) : Value.le K (.level l) (n.value σ) = true := by
  have belongs := known.belongs solution.belongs
  rcases mem_levelsInto.mp member with literal | ⟨p, listed, rfl, flows⟩
  · exact solution.le_of_flows lawful based known literal
  · have start := (demanded.operand p listed).belongs solution.belongs
    exact Value.le_trans lawful (demanded.level p listed) start belongs (met.levels p listed)
      (solution.le_of_flows lawful based known flows)

/-- The candidate is below every solution that meets the demands. -/
theorem Solution.least_le (solution : Solution K cs σ) (lawful : K.Lawful) (based : cs.Over K)
    (demanded : D.Known K) (met : D.Met K σ) (known : n.Known K) :
    Value.le K (least K cs D n) (n.value σ) = true := by
  apply FlowTyping.least_le lawful based demanded known (known.belongs solution.belongs)
  · exact solution.dyn_of_dynInto met
  · intro l member
    exact solution.le_of_levelsInto lawful based demanded met known member

theorem Solution.consistent (solution : Solution K cs σ) (lawful : K.Lawful) (based : cs.Over K)
    (demanded : D.Known K) (met : D.Met K σ) : Consistent K cs D := by
  have level : ∀ n : Operand, n.Known K → levelsInto cs D n ≠ [] → ∃ u, n.value σ = .level u := by
    intro n known holds
    obtain ⟨l, member⟩ := List.exists_mem_of_ne_nil _ holds
    obtain ⟨u, value, _⟩ := Value.level_le_iff.mp
      (solution.le_of_levelsInto lawful based demanded met known member)
    exact ⟨u, value⟩
  refine ⟨?_, ?_, ?_⟩
  · rintro n known ⟨dynamic, holds⟩
    obtain ⟨u, value⟩ := level n known holds
    simp [solution.dyn_of_dynInto met dynamic] at value
  · intro u known l member
    have below : Value.le K (.level l) (.level u) = true :=
      solution.le_of_levelsInto (n := .literal (.level u)) lawful based demanded met known member
    exact below
  · intro c member kind
    obtain ⟨lhsKnown, rhsKnown⟩ := based.known member
    have holds := solution.holds c member
    rw [Flow.holds, kind] at holds
    obtain ⟨forward, backward⟩ := Value.compatible_iff.mp holds
    constructor
    · rintro ⟨dynamic, levels⟩
      exact forward ⟨solution.dyn_of_dynInto met dynamic, level _ rhsKnown levels⟩
    · rintro ⟨dynamic, levels⟩
      exact backward ⟨solution.dyn_of_dynInto met dynamic, level _ lhsKnown levels⟩

end FlowTyping
