import FlowTyping.Proofs.IdleConsequences

/-!
Minimizing with and without the idle consequences keeps the same constraints. Where a `=>` or
a compatibility comes up, all flows stand beside it, and an unmentioned variable can be public.
Where a flow comes up, some of the flows that make an operand public may be gone already; then
a valuation that breaks it is lowered: what ought to be public becomes so, unless the left side
of the broken flow leads there. Nothing above that side is both dynamic and a level, so each
unmentioned variable finds a value above all.
-/

namespace FlowTyping

variable {K : LevelLattice Level} {cs beside kept : ConstraintSet} {σ τ ρ : Valuation}
variable {onto : VarSet} {n source : Operand} {c d : Flow}

theorem Kind.holds_pub (kind : Kind) (x : Value) : kind.holds K .pub x = true := by
  cases kind <;> cases x <;> rfl

theorem Flow.lhs_ne_pub (broken : ¬ Flow.holds K σ c = true) : c.lhs.value σ ≠ .pub := by
  intro value
  apply broken
  rw [Flow.holds, value]
  exact c.kind.holds_pub _

/-- What a lowered valuation makes public: the operands that ought to be, unless the source
leads there. -/
def Sinks (K : LevelLattice Level) (cs beside : ConstraintSet) (source n : Operand) : Prop :=
  IsPublic K cs n ∧ ¬ Flows beside source n

/-- The sinking operands become public and the others keep their values. -/
structure Lowered (K : LevelLattice Level) (cs beside : ConstraintSet) (onto : VarSet)
    (source : Operand) (σ τ : Valuation) : Prop where
  belongs : ∀ v, (τ v).Belongs K
  sunk : ∀ n, Retained K cs onto n → Sinks K cs beside source n → n.value τ = .pub
  same : ∀ n, Retained K cs onto n → ¬ Sinks K cs beside source n → n.value τ = n.value σ

/-- Lowering keeps a solution of entailed constraints, if no `=>` among them is idle. -/
theorem Lowered.solution (lowered : Lowered K cs beside onto source σ τ)
    (solved : Solution K beside σ)
    (retained : ∀ d ∈ beside, Retained K cs onto d.lhs ∧ Retained K cs onto d.rhs)
    (entailed : ∀ d ∈ beside, Entails K cs d)
    (live : ∀ d ∈ beside, d.kind = .implies → ¬ NotDynamic K cs d.lhs) :
    Solution K beside τ := by
  refine ⟨lowered.belongs, ?_⟩
  intro d member
  obtain ⟨keptLeft, keptRight⟩ := retained d member
  have held := solved.holds d member
  by_cases left : Sinks K cs beside source d.lhs
  · rw [Flow.holds, lowered.sunk _ keptLeft left]
    exact d.kind.holds_pub _
  · by_cases right : Sinks K cs beside source d.rhs
    · cases kind : d.kind with
      | flow =>
        -- What flows into a sinking operand sinks as well.
        refine absurd ⟨?_, ?_⟩ left
        · intro θ solution
          have below := entailed d member θ solution
          rw [Flow.holds, kind, right.1 θ solution] at below
          exact Value.le_pub_iff.mp below
        · intro flows
          exact right.2 (flows.trans (Flows.of_mem member kind))
      | compatible =>
        rw [Flow.holds, kind, lowered.sunk _ keptRight right]
        show (d.lhs.value τ).compatible .pub = true
        rw [Value.compatible_comm]
        rfl
      | implies =>
        refine absurd ?_ (live d member kind)
        intro θ solution dynamic
        have spread := entailed d member θ solution
        rw [Flow.holds, kind, right.1 θ solution, dynamic] at spread
        cases spread
    · rw [Flow.holds_of_values (lowered.same _ keptLeft left) (lowered.same _ keptRight right)]
      exact held

theorem Lowered.broken (lowered : Lowered K cs beside onto c.lhs σ τ) (flow : c.kind = .flow)
    (keptLeft : Retained K cs onto c.lhs) (keptRight : Retained K cs onto c.rhs)
    (broken : ¬ Flow.holds K σ c = true) : ¬ Flow.holds K τ c = true := by
  have left := lowered.same _ keptLeft fun sinks => sinks.2 .refl
  by_cases right : Sinks K cs beside c.lhs c.rhs
  · intro held
    rw [Flow.holds, flow, left, lowered.sunk _ keptRight right] at held
    exact Flow.lhs_ne_pub broken (Value.le_pub_iff.mp held)
  · rw [Flow.holds_of_values left (lowered.same _ keptRight right)]
    exact broken

/-- The value above all that a value leads to when it is not public. -/
def Value.ceiling (K : LevelLattice Level) : Value → Value
  | .dyn => .dyn
  | _ => .level K.top

theorem Value.ceiling_belongs (lawful : K.Lawful) (x : Value) : (x.ceiling K).Belongs K := by
  cases x with
  | pub => exact lawful.top_mem
  | dyn => trivial
  | level l => exact lawful.top_mem

theorem Value.le_ceiling (lawful : K.Lawful) {x y : Value} (belongs : y.Belongs K)
    (nonpublic : x ≠ .pub) (below : Value.le K x y = true) :
    Value.le K y (x.ceiling K) = true := by
  cases x with
  | pub => exact absurd rfl nonpublic
  | dyn =>
    rw [Value.dyn_le_iff.mp below]
    rfl
  | level l =>
    obtain ⟨u, rfl, _⟩ := Value.level_le_iff.mp below
    exact lawful.le_top u belongs

/-- Every valuation can be lowered, with the ceiling of the source for what is not mentioned. -/
theorem exists_lowered (lawful : K.Lawful) (solution : Solution K cs ρ)
    (belongs : ∀ v, (σ v).Belongs K) (beside : ConstraintSet) (onto : VarSet) (source : Operand) :
    ∃ τ, Lowered K cs beside onto source σ τ ∧
      ∀ v, v ∉ cs.vars → τ v = (source.value σ).ceiling K := by
  classical
  refine ⟨fun v => if v ∈ cs.vars then
      if Sinks K cs beside source (.var v) then .pub else σ v
    else (source.value σ).ceiling K, ⟨?_, ?_, ?_⟩, fun v free => if_neg free⟩
  · intro v
    by_cases mentioned : v ∈ cs.vars
    · by_cases sinks : Sinks K cs beside source (.var v)
      · simp only [mentioned, sinks, if_true]
        trivial
      · simp only [mentioned, sinks, if_true, if_false]
        exact belongs v
    · simp only [mentioned, if_false]
      exact Value.ceiling_belongs lawful _
  · intro n retained sinks
    cases n with
    | literal l =>
      have value := sinks.1 ρ solution
      cases l <;> cases value
    | var v => simp [Operand.value, retained.1, sinks]
  · intro n retained stays
    cases n with
    | literal l => rfl
    | var v => simp [Operand.value, retained.1, stays]

/-- Then the public operands flow into what is not mentioned: either the source leads to them,
and their value is below its ceiling, or they sink. -/
theorem Lowered.idle (lowered : Lowered K cs beside onto source σ τ) (lawful : K.Lawful)
    (overBeside : beside.Over K) (solved : Solution K beside σ) (nonpublic : source.value σ ≠ .pub)
    (ceiling : ∀ v, v ∉ cs.vars → τ v = (source.value σ).ceiling K)
    (shape : IdleShape K cs onto d) (flow : d.kind = .flow) : Flow.holds K τ d = true := by
  obtain ⟨v, side, free⟩ := shape.rhs
  obtain ⟨_, isPublic⟩ : d.kind = .flow ∧ IsPublic K cs d.lhs :=
    shape.kind.resolve_right fun implies => by simp [flow] at implies
  have above : d.rhs.value τ = (source.value σ).ceiling K := by
    rw [side]
    exact ceiling v free
  rw [Flow.holds, flow, above]
  by_cases leads : Flows beside source d.lhs
  · have below := solved.le_of_flows lawful overBeside shape.lhs.known leads
    rw [lowered.same _ shape.lhs fun sinks => sinks.2 leads]
    exact Value.le_ceiling lawful (shape.lhs.known.belongs solved.belongs) nonpublic below
  · rw [lowered.sunk _ shape.lhs ⟨isPublic, leads⟩]
    rfl

/-- What stands beside a constraint when a projection condenses. -/
def ConstraintSet.companions (K : LevelLattice Level) (cs : ConstraintSet) (onto : VarSet)
    (c : Flow) : ConstraintSet :=
  standing ((cs.entailedAmong K onto).condense K) ((cs.entailedAmong K onto).core K) c

/-- The same with the idle consequences that come later. -/
def ConstraintSet.allCompanions (K : LevelLattice Level) (cs : ConstraintSet) (onto : VarSet)
    (c : Flow) : ConstraintSet :=
  standing ((cs.entailedAmong K onto).condense K) ((cs.consequences K onto).core K) c

section Minimization

variable (lawful : K.Lawful) (based : cs.Over K) (solution : Solution K cs ρ)
include lawful based

theorem apart_of_mem_consequences :
    ∀ c ∈ (cs.consequences K onto).core K, c.lhs ≠ c.rhs := by
  intro c member
  obtain ⟨_, _, apart, _⟩ :=
    (ConstraintSet.mem_consequences lawful based).mp (ConstraintSet.core_subset c member)
  exact apart

include solution

theorem core_entailedAmong_subset :
    ∀ c ∈ (cs.entailedAmong K onto).core K, c ∈ (cs.consequences K onto).core K := by
  intro c member
  exact ((mem_core_entailedAmong lawful based solution).mp member).1

theorem retained_of_core (member : c ∈ (cs.entailedAmong K onto).core K) :
    Retained K cs onto c.lhs ∧ Retained K cs onto c.rhs :=
  not_idle_iff.mp ((mem_core_entailedAmong lawful based solution).mp member).2

/-- A `=>` whose left side is never dynamic is not kept: the compatibilities beside it
entail it. -/
theorem live_of_mem_condense (member : d ∈ (cs.entailedAmong K onto).condense K)
    (implies : d.kind = .implies) : ¬ NotDynamic K cs d.lhs := by
  intro notDynamic
  have overAmong : (cs.entailedAmong K onto).Over K := cs.entailedAmong_over lawful based
  have apart : ∀ c ∈ (cs.entailedAmong K onto).core K, c.lhs ≠ c.rhs := fun c inside =>
    apart_of_mem_consequences lawful based c
      (core_entailedAmong_subset lawful based solution c inside)
  obtain ⟨inside, free⟩ := (ConstraintSet.mem_condense_iff lawful overAmong apart).mp member
  apply free
  intro σ solved
  have compatibles := ConstraintSet.compatibles_hold_of_standing lawful overAmong implies solved
  have static := value_of_notDynamic lawful based solution compatibles
    (retained_of_core lawful based solution inside).1 notDynamic
  rw [Flow.holds, implies]
  exact Value.implies_iff.mpr fun dynamic => absurd dynamic static

theorem allCompanions_cases (member : d ∈ cs.allCompanions K onto c) :
    d ∈ cs.companions K onto c ∨ IdleShape K cs onto d ∧ Constraint.order c d = .lt := by
  rcases ConstraintSet.mem_standing.mp member with ⟨kept, less⟩ | ⟨inside, less⟩
  · exact Or.inl (ConstraintSet.mem_standing.mpr (Or.inl ⟨kept, less⟩))
  · by_cases idle : Idle K cs onto d
    · exact Or.inr ⟨idleShape_of_core lawful based solution inside idle, less⟩
    · have active := (mem_core_entailedAmong lawful based solution).mpr ⟨inside, idle⟩
      exact Or.inl (ConstraintSet.mem_standing.mpr (Or.inr ⟨active, less⟩))

omit lawful based solution in
theorem core_of_companion (member : d ∈ cs.companions K onto c) :
    d ∈ (cs.entailedAmong K onto).core K := by
  rcases ConstraintSet.mem_standing.mp member with ⟨kept, _⟩ | ⟨inside, _⟩
  · exact ConstraintSet.condense_subset_core d kept
  · exact inside

/-- Idle constraints do not help where a `=>` or a compatibility comes up. -/
theorem entails_companions_of_other (member : c ∈ (cs.entailedAmong K onto).core K)
    (other : c.kind ≠ .flow) (entailed : Entails K (cs.allCompanions K onto c) c) :
    Entails K (cs.companions K onto c) c := by
  intro σ solved
  have overAmong : (cs.entailedAmong K onto).Over K := cs.entailedAmong_over lawful based
  have flows := ConstraintSet.flows_hold_of_standing lawful overAmong other solved
  obtain ⟨left, right⟩ := retained_of_core lawful based solution member
  rw [← Flow.holds_of_values left.value_inside right.value_inside]
  refine entailed _ ⟨Valuation.inside_belongs solved.belongs, ?_⟩
  intro d beside
  rcases allCompanions_cases lawful based solution beside with active | ⟨shape, less⟩
  · obtain ⟨leftD, rightD⟩ := retained_of_core lawful based solution (core_of_companion active)
    rw [Flow.holds_of_values leftD.value_inside rightD.value_inside]
    exact solved.holds d active
  · refine shape.holds lawful based solution flows ?_ shape.lhs.value_inside
    intro implies
    exact ConstraintSet.compatibles_hold_of_standing lawful overAmong
      (Constraint.implies_of_order_lt implies less) solved

/-- Lowering a solution of the companions of a flow gives another one. -/
theorem Lowered.companions (lowered : Lowered K cs (cs.companions K onto c) onto source σ τ)
    (flow : c.kind = .flow) (solved : Solution K (cs.companions K onto c) σ) :
    Solution K (cs.companions K onto c) τ := by
  apply lowered.solution solved
  · intro d beside
    exact retained_of_core lawful based solution (core_of_companion beside)
  · intro d beside
    exact ((ConstraintSet.mem_entailedAmong lawful based).mp
      (ConstraintSet.core_subset d (core_of_companion beside))).2
  · intro d beside implies
    rcases ConstraintSet.mem_standing.mp beside with ⟨kept, _⟩ | ⟨_, after⟩
    · exact live_of_mem_condense lawful based solution kept implies
    · rw [Constraint.flow_of_order_lt flow after] at implies
      cases implies

/-- Idle constraints do not help where a flow comes up. -/
theorem entails_companions_of_flow (member : c ∈ (cs.entailedAmong K onto).core K)
    (flow : c.kind = .flow) (entailed : Entails K (cs.allCompanions K onto c) c) :
    Entails K (cs.companions K onto c) c := by
  intro σ solved
  apply Classical.byContradiction
  intro broken
  have overAmong : (cs.entailedAmong K onto).Over K := cs.entailedAmong_over lawful based
  have besideOver : (cs.companions K onto c).Over K :=
    overAmong.subset fun d beside => ConstraintSet.core_subset d (core_of_companion beside)
  have nonpublic := Flow.lhs_ne_pub broken
  obtain ⟨keptLeft, keptRight⟩ := retained_of_core lawful based solution member
  obtain ⟨τ, lowered, ceiling⟩ :=
    exists_lowered lawful solution solved.belongs (cs.companions K onto c) onto c.lhs
  refine lowered.broken flow keptLeft keptRight broken (entailed τ ⟨lowered.belongs, ?_⟩)
  intro d beside
  rcases allCompanions_cases lawful based solution beside with active | ⟨shape, less⟩
  · exact (lowered.companions lawful based solution flow solved).holds d active
  · exact lowered.idle lawful besideOver solved nonpublic ceiling shape
      (Constraint.flow_of_order_lt flow less)

theorem entails_allCompanions_of_idle (member : c ∈ (cs.consequences K onto).core K)
    (idle : Idle K cs onto c) : Entails K (cs.allCompanions K onto c) c := by
  intro σ solved
  have overAmong : (cs.entailedAmong K onto).Over K := cs.entailedAmong_over lawful based
  have condensed : Solution K ((cs.entailedAmong K onto).condense K) σ := by
    apply solved.subset
    intro d kept
    have active := ConstraintSet.condense_subset_core d kept
    apply ConstraintSet.mem_standing.mpr
    cases place : Constraint.order d c with
    | lt => exact Or.inl ⟨kept, rfl⟩
    | eq =>
      obtain rfl := Std.LawfulEqCmp.eq_of_compare place
      exact absurd idle ((mem_core_entailedAmong lawful based solution).mp active).2
    | gt =>
      exact Or.inr ⟨core_entailedAmong_subset lawful based solution d active,
        Std.OrientedCmp.lt_of_gt place⟩
  have solves := (ConstraintSet.condense_solution_iff lawful overAmong).mp condensed
  have shape := idleShape_of_core lawful based solution member idle
  apply shape.holds lawful based solution
  · intro d there _
    exact solves.holds d there
  · intro _ d there _
    exact solves.holds d there
  · rfl

/-- A projection condenses as much as all consequences do. -/
theorem condense_consequences :
    (cs.consequences K onto).condense K = (cs.entailedAmong K onto).condense K := by
  apply ConstraintSet.condense_eq_of_standing lawful
    (ConstraintSet.consequences_over lawful based) (cs.entailedAmong_over lawful based)
    (apart_of_mem_consequences lawful based) (core_entailedAmong_subset lawful based solution)
  intro c member
  constructor
  · intro entailed active
    by_cases flow : c.kind = .flow
    · exact entails_companions_of_flow lawful based solution active flow entailed
    · exact entails_companions_of_other lawful based solution active flow entailed
  · intro entailed
    by_cases idle : Idle K cs onto c
    · exact entails_allCompanions_of_idle lawful based solution member idle
    · have active := (mem_core_entailedAmong lawful based solution).mpr ⟨member, idle⟩
      intro σ solved
      refine entailed active σ (solved.subset ?_)
      intro d beside
      rcases ConstraintSet.mem_standing.mp beside with ⟨kept, less⟩ | ⟨inside, less⟩
      · exact ConstraintSet.mem_standing.mpr (Or.inl ⟨kept, less⟩)
      · exact ConstraintSet.mem_standing.mpr
          (Or.inr ⟨core_entailedAmong_subset lawful based solution d inside, less⟩)

end Minimization

end FlowTyping
