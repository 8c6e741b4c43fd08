import FlowTyping.Proofs.Condensation

/-!
Projection eliminates variables. Every solution of a set satisfies its projection; without
`=>`, every choice of values for the retained variables that satisfies the projection
extends to a solution. The extension is the least solution under the demand that the
retained variables have at least their values: what the demand asks for along chains is
entailed between retained operands, so the projection has it.
-/

namespace FlowTyping

variable {K : LevelLattice Level} {cs : ConstraintSet} {σ τ ρ : Valuation} {onto : VarSet}
variable {a b n : Operand}

/-- The operands that a projection retains: the retained variables and the literals of the
lattice. -/
def Retained (K : LevelLattice Level) (cs : ConstraintSet) (onto : VarSet) : Operand → Prop
  | .literal l => (Operand.literal l).Known K
  | .var v => v ∈ cs.vars ∧ v ∈ onto

theorem Retained.known (retained : Retained K cs onto n) : n.Known K := by
  cases n with
  | literal l => exact retained
  | var v => trivial

namespace ConstraintSet

theorem mem_projectionOperands : n ∈ cs.projectionOperands K onto ↔ Retained K cs onto n := by
  simp only [projectionOperands, List.mem_append, List.mem_map, List.mem_singleton]
  rcases n with (_ | l) | v
  · simp [Retained, Operand.Known]
  · simp [Retained, Operand.Known]
  · simp [Retained, ← SortedSet.mem_def]

theorem mem_candidates {operands : List Operand} {c : Flow} :
    c ∈ candidates operands ↔ ∃ a ∈ operands, ∃ b ∈ operands, ∃ kind, a ≠ b ∧
      ¬ (a.isLiteral = true ∧ b.isLiteral = true) ∧ c = Constraint.make a kind b := by
  have every : ∀ kind : Kind, kind ∈ Kind.all := by intro kind; cases kind <;> simp [Kind.all]
  simp only [candidates, List.mem_flatMap]
  constructor
  · rintro ⟨a, memberA, b, memberB, listed⟩
    split at listed
    · cases listed
    · rename_i apart
      obtain ⟨kind, _, rfl⟩ := List.mem_map.mp listed
      obtain ⟨different, open'⟩ := not_or.mp apart
      exact ⟨a, memberA, b, memberB, kind, different, open', rfl⟩
  · rintro ⟨a, memberA, b, memberB, kind, different, open', rfl⟩
    refine ⟨a, memberA, b, memberB, ?_⟩
    rw [if_neg (not_or.mpr ⟨different, open'⟩)]
    exact List.mem_map.mpr ⟨kind, every kind, rfl⟩

theorem mem_candidates_iff_sides {operands : List Operand} {c : Flow} :
    c ∈ candidates operands ↔ c.lhs ∈ operands ∧ c.rhs ∈ operands ∧ c.lhs ≠ c.rhs ∧
      ¬ (c.lhs.isLiteral = true ∧ c.rhs.isLiteral = true) := by
  rw [mem_candidates]
  constructor
  · intro made
    obtain ⟨a, memberA, b, memberB, kind, apart, mixed, rfl⟩ := made
    rcases Constraint.make_sides a b kind with ⟨lhs, rhs⟩ | ⟨_, lhs, rhs⟩
    · rw [lhs, rhs]
      exact ⟨memberA, memberB, apart, mixed⟩
    · rw [lhs, rhs]
      exact ⟨memberB, memberA, apart.symm, fun both => mixed both.symm⟩
  · intro sides
    obtain ⟨left, right, apart, mixed⟩ := sides
    exact ⟨c.lhs, left, c.rhs, right, c.kind, apart, mixed, (Constraint.make_parts c).symm⟩

theorem retained_of_mem_candidates {c : Flow}
    (listed : c ∈ candidates (cs.projectionOperands K onto)) :
    Retained K cs onto c.lhs ∧ Retained K cs onto c.rhs := by
  obtain ⟨left, right, _⟩ := mem_candidates_iff_sides.mp listed
  exact ⟨mem_projectionOperands.mp left, mem_projectionOperands.mp right⟩

def entailedAmong (K : LevelLattice Level) (cs : ConstraintSet) (onto : VarSet) : ConstraintSet :=
  ofList ((candidates (cs.projectionOperands K onto)).filter (Closure.ofSet K cs).entails)

theorem project_of_sat (sat : cs.isSat K = true) :
    cs.project K onto = (cs.entailedAmong K onto).condense K := by
  show (if cs.isSat K = true then _ else _) = _
  rw [if_pos sat]
  rfl

theorem project_of_unsat (unsat : ¬ cs.isSat K = true) : cs.project K onto = contradiction K := by
  show (if cs.isSat K = true then _ else _) = _
  rw [if_neg unsat]

theorem mem_entailedAmong (lawful : K.Lawful) (based : cs.Over K) {c : Flow} :
    c ∈ cs.entailedAmong K onto ↔
      c ∈ candidates (cs.projectionOperands K onto) ∧ Entails K cs c := by
  rw [entailedAmong, mem_ofList, List.mem_filter]
  apply and_congr_right
  intro listed
  obtain ⟨lhs, rhs⟩ := retained_of_mem_candidates listed
  exact Closure.entails_iff lawful based lhs.known rhs.known

theorem entailedAmong_over (lawful : K.Lawful) (based : cs.Over K) :
    (cs.entailedAmong K onto).Over K := by
  apply over_iff_sides.mpr
  intro c member
  obtain ⟨lhs, rhs⟩ := retained_of_mem_candidates ((mem_entailedAmong lawful based).mp member).1
  exact ⟨lhs.known, rhs.known⟩

theorem project_retained (lawful : K.Lawful) (based : cs.Over K) :
    ∀ c ∈ cs.project K onto, Retained K cs onto c.lhs ∧ Retained K cs onto c.rhs := by
  intro c member
  by_cases sat : cs.isSat K = true
  · rw [project_of_sat sat] at member
    exact retained_of_mem_candidates
      ((mem_entailedAmong lawful based).mp (condense_subset c member)).1
  · rw [project_of_unsat sat, contradiction, mem_ofList, List.mem_singleton] at member
    have marker : Retained K cs onto (.literal .dyn) := trivial
    have bottom : Retained K cs onto (.literal (.level K.bottom)) := lawful.bottom_mem
    rw [member]
    exact Constraint.make_both marker bottom .compatible

theorem project_over (lawful : K.Lawful) (based : cs.Over K) : (cs.project K onto).Over K := by
  apply over_iff_sides.mpr
  intro c member
  obtain ⟨lhs, rhs⟩ := project_retained lawful based c member
  exact ⟨lhs.known, rhs.known⟩

theorem project_vars (lawful : K.Lawful) (based : cs.Over K) :
    ∀ v ∈ (cs.project K onto).vars, v ∈ cs.vars ∧ v ∈ onto := by
  intro v listed
  obtain ⟨c, member, side⟩ := mem_vars.mp listed
  obtain ⟨lhs, rhs⟩ := project_retained lawful based c member
  rcases side with same | same
  · rwa [same] at lhs
  · rwa [same] at rhs

/-- What agrees on the retained variables with a solution satisfies the projection. -/
theorem project_holds (lawful : K.Lawful) (based : cs.Over K) (solution : Solution K cs σ)
    (agree : ∀ v ∈ onto, τ v = σ v) : ∀ c ∈ cs.project K onto, Flow.holds K τ c = true := by
  intro c member
  have sat : cs.isSat K = true := (Closure.isSat_iff lawful based).mpr ⟨σ, solution⟩
  have listed := member
  rw [project_of_sat sat] at listed
  have entailed := ((mem_entailedAmong lawful based).mp (condense_subset c listed)).2
  have same : ∀ v ∈ c.vars, τ v = σ v := fun v there =>
    agree v (project_vars lawful based v (mem_vars_of_mem member there)).2
  rw [Flow.holds_congr same]
  exact entailed σ solution

theorem isSat_of_project (solution : Solution K (cs.project K onto) τ) : cs.isSat K = true := by
  by_cases sat : cs.isSat K = true
  · exact sat
  · have member : .make (.literal .dyn) .compatible (.literal (.level K.bottom)) ∈
        cs.project K onto := by
      rw [project_of_unsat sat]
      simp [contradiction]
    have held := solution.holds _ member
    rw [Flow.holds_make] at held
    cases held

/-- Choices of values that solve the projection satisfy all that the set entails between
retained operands. -/
theorem holds_of_project (lawful : K.Lawful) (based : cs.Over K)
    (solution : Solution K (cs.project K onto) τ) (retainedA : Retained K cs onto a)
    (retainedB : Retained K cs onto b) {kind : Kind} (entailed : Entails K cs (.make a kind b)) :
    kind.holds K (a.value τ) (b.value τ) = true := by
  have sat := isSat_of_project solution
  obtain ⟨σ, solved⟩ := (Closure.isSat_iff lawful based).mp sat
  obtain ⟨left, right⟩ := Constraint.make_both retainedA retainedB kind
  rw [← Flow.holds_make]
  apply entailed.holds_of_open lawful solved solution.belongs right.known
  intro apart mixed
  rw [project_of_sat sat, condense_solution_iff lawful (entailedAmong_over lawful based)]
    at solution
  apply solution.holds _ ((mem_entailedAmong lawful based).mpr ⟨?_, entailed⟩)
  exact mem_candidates_iff_sides.mpr ⟨mem_projectionOperands.mpr left,
    mem_projectionOperands.mpr right, apart, mixed⟩

end ConstraintSet

/-- The demand that some variables have at least the values they are given. -/
def Demands.pin (τ : Valuation) (vars : VarSet) : Demands where
  dyn := (vars.filter (fun v => decide (τ v = .dyn))).toList.map Operand.var
  levels := vars.toList.filterMap (fun v =>
    match τ v with
    | .level l => some (.var v, l)
    | _ => .none)

namespace Demands

variable {vars : VarSet}

theorem mem_pin_dyn : n ∈ (pin τ vars).dyn ↔ ∃ v ∈ vars, τ v = .dyn ∧ n = .var v := by
  simp only [pin, List.mem_map, ← SortedSet.mem_def, SortedSet.mem_filter, decide_eq_true_eq]
  constructor
  · rintro ⟨v, ⟨member, dynamic⟩, rfl⟩
    exact ⟨v, member, dynamic, rfl⟩
  · rintro ⟨v, member, dynamic, rfl⟩
    exact ⟨v, ⟨member, dynamic⟩, rfl⟩

theorem mem_pin_levels {p : Operand × Level} :
    p ∈ (pin τ vars).levels ↔ ∃ v ∈ vars, τ v = .level p.2 ∧ p.1 = .var v := by
  simp only [pin, List.mem_filterMap, ← SortedSet.mem_def]
  constructor
  · rintro ⟨v, member, shaped⟩
    split at shaped
    · rename_i l level
      obtain rfl := Option.some.inj shaped
      exact ⟨v, member, level, rfl⟩
    · cases shaped
  · rintro ⟨v, member, level, operand⟩
    refine ⟨v, member, ?_⟩
    simp [level, ← operand]

theorem pin_known (belongs : ∀ v ∈ vars, (τ v).Belongs K) : (pin τ vars).Known K := by
  refine ⟨?_, ?_, ?_⟩
  · intro n listed
    obtain ⟨v, _, _, rfl⟩ := mem_pin_dyn.mp listed
    trivial
  · intro p listed
    obtain ⟨v, _, _, operand⟩ := mem_pin_levels.mp listed
    rw [operand]
    trivial
  · intro p listed
    obtain ⟨v, member, level, _⟩ := mem_pin_levels.mp listed
    have known := belongs v member
    rwa [level] at known

theorem Met.le_of_pin (met : (pin τ vars).Met K σ) {v : TypeVar} (member : v ∈ vars) :
    Value.le K (τ v) (σ v) = true := by
  cases value : τ v with
  | pub => rfl
  | dyn => exact Value.dyn_le_iff.mpr (met.dyn (.var v) (mem_pin_dyn.mpr ⟨v, member, value, rfl⟩))
  | level l => exact met.levels (.var v, l) (mem_pin_levels.mpr ⟨v, member, value, rfl⟩)

end Demands

section Extension

variable (lawful : K.Lawful) (based : cs.Over K)

theorem dynInto_pin (plain : ∀ c ∈ cs, c.kind ≠ .implies)
    (dynamic : DynInto cs (.pin τ (cs.vars.inter onto)) n) :
    ∃ a, Retained K cs onto a ∧ a.value τ = .dyn ∧ Flows cs a n := by
  rcases dynamic with marker | ⟨d, listed, spreads⟩
  · exact ⟨.literal .dyn, trivial, rfl, marker.flows plain⟩
  · obtain ⟨v, member, value, rfl⟩ := Demands.mem_pin_dyn.mp listed
    exact ⟨.var v, SortedSet.mem_inter.mp member, value, spreads.flows plain⟩

include based in
theorem mem_levelsInto_pin (known : n.Known K) {l : Level}
    (member : l ∈ levelsInto cs (.pin τ (cs.vars.inter onto)) n) :
    ∃ a, Retained K cs onto a ∧ a.value τ = .level l ∧ Flows cs a n := by
  rcases mem_levelsInto.mp member with literal | ⟨⟨_, _⟩, listed, rfl, flows⟩
  · exact ⟨.literal (.level l), literal.known based known, rfl, literal⟩
  · obtain ⟨v, inside, value, rfl⟩ := Demands.mem_pin_levels.mp listed
    exact ⟨.var v, SortedSet.mem_inter.mp inside, value, flows⟩

variable (solution : Solution K (cs.project K onto) τ)
include lawful based solution

/-- The values of retained operands grow along chains of `<=` of the whole set. -/
theorem le_of_retained (retainedA : Retained K cs onto a) (retainedB : Retained K cs onto b)
    (flows : Flows cs a b) : Value.le K (a.value τ) (b.value τ) = true := by
  have entailed : Entails K cs (.make a .flow b) := by
    intro σ solved
    rw [Flow.holds_make]
    exact solved.le_of_flows lawful based retainedB.known flows
  exact cs.holds_of_project lawful based solution retainedA retainedB entailed

variable (plain : ∀ c ∈ cs, c.kind ≠ .implies)
include plain

/-- Two operands that every solution makes compatible do not clash under the demand. -/
theorem not_clash_pin (knownA : a.Known K) (knownB : b.Known K)
    (joined : ∀ σ, Solution K cs σ → (a.value σ).compatible (b.value σ) = true) :
    ¬ Clash cs (.pin τ (cs.vars.inter onto)) a b := by
  rintro ⟨dynamic, holds⟩
  obtain ⟨source, retained, value, flows⟩ := dynInto_pin plain dynamic
  obtain ⟨l, member⟩ := List.exists_mem_of_ne_nil _ holds
  obtain ⟨source', retained', value', flows'⟩ := mem_levelsInto_pin based knownB member
  have entailed : Entails K cs (.make source .compatible source') := by
    intro σ solved
    rw [Flow.holds_make]
    exact Value.compatible_of_le_of_le (solved.le_of_flows lawful based knownA flows)
      (joined σ solved) (solved.le_of_flows lawful based knownB flows')
  have held := cs.holds_of_project lawful based solution retained retained' entailed
  rw [value, value'] at held
  cases held

theorem pin_consistent : Consistent K cs (.pin τ (cs.vars.inter onto)) := by
  refine ⟨?_, ?_, ?_⟩
  · intro n known
    apply not_clash_pin lawful based solution plain known known
    intro σ solved
    exact Value.holds_self lawful .compatible (known.belongs solved.belongs)
  · intro u known l member
    have upper : Retained K cs onto (.literal (.level u)) := known
    obtain ⟨source, retained, value, flows⟩ := mem_levelsInto_pin based upper.known member
    have below := le_of_retained lawful based solution retained upper flows
    rw [value] at below
    exact below
  · intro c member kind
    obtain ⟨knownLhs, knownRhs⟩ := based.known member
    have joined : ∀ σ, Solution K cs σ → (c.lhs.value σ).compatible (c.rhs.value σ) = true := by
      intro σ solved
      have held := solved.holds c member
      rwa [Flow.holds, kind] at held
    constructor
    · exact not_clash_pin lawful based solution plain knownLhs knownRhs joined
    · apply not_clash_pin lawful based solution plain knownRhs knownLhs
      intro σ solved
      rw [Value.compatible_comm]
      exact joined σ solved

/-- The least solution under the demand agrees with the given values on what is retained. -/
theorem least_pin {v : TypeVar} (member : v ∈ cs.vars.inter onto) :
    leastValuation K cs (.pin τ (cs.vars.inter onto)) v = τ v := by
  have demanded : (Demands.pin τ (cs.vars.inter onto)).Known K :=
    Demands.pin_known fun v _ => solution.belongs v
  have consistent := pin_consistent lawful based solution plain
  have retained : Retained K cs onto (.var v) := SortedSet.mem_inter.mp member
  have belongs := least_belongs lawful based demanded retained.known
  apply Value.le_antisymm lawful belongs (solution.belongs v)
  · apply least_le lawful based demanded retained.known (solution.belongs v)
    · intro dynamic
      obtain ⟨source, kept, value, flows⟩ := dynInto_pin plain dynamic
      have below := le_of_retained lawful based solution kept retained flows
      rw [value] at below
      exact Value.dyn_le_iff.mp below
    · intro l listed
      obtain ⟨source, kept, value, flows⟩ := mem_levelsInto_pin based retained.known listed
      have below := le_of_retained lawful based solution kept retained flows
      rwa [value] at below
  · exact (consistent.met lawful based demanded).le_of_pin member

end Extension

/-- Values of the lattice for some variables are part of a valuation by such values. -/
theorem Valuation.exists_belonging (belongs : ∀ v ∈ onto, (τ v).Belongs K) :
    ∃ ρ : Valuation, (∀ v ∈ onto, ρ v = τ v) ∧ ∀ v, (ρ v).Belongs K := by
  refine ⟨fun v => if v ∈ onto then τ v else .pub, fun v member => if_pos member, fun v => ?_⟩
  by_cases member : v ∈ onto
  · simp [member, belongs v member]
  · simp only [member, if_false]
    trivial

namespace ConstraintSet

/-- Without `=>`, values for the retained variables that satisfy the projection extend to a
solution. -/
theorem project_extends (lawful : K.Lawful) (based : cs.Over K)
    (plain : ∀ c ∈ cs, c.kind ≠ .implies) (belongs : ∀ v ∈ onto, (τ v).Belongs K)
    (holds : ∀ c ∈ cs.project K onto, Flow.holds K τ c = true) :
    ∃ σ, Solution K cs σ ∧ ∀ v ∈ onto, σ v = τ v := by
  obtain ⟨ρ, inside, everywhere⟩ := Valuation.exists_belonging belongs
  have solution : Solution K (cs.project K onto) ρ := by
    refine ⟨everywhere, fun c member => ?_⟩
    have agree : ∀ v ∈ c.vars, ρ v = τ v := fun v listed =>
      inside v (project_vars lawful based v (mem_vars_of_mem member listed)).2
    rw [Flow.holds_congr agree]
    exact holds c member
  have demanded : (Demands.pin ρ (cs.vars.inter onto)).Known K :=
    Demands.pin_known fun v _ => everywhere v
  have least := (pin_consistent lawful based solution plain).solution lawful based demanded
  refine ⟨fun v => if v ∈ onto then τ v else leastValuation K cs (.pin ρ (cs.vars.inter onto)) v,
    ?_, fun v member => if_pos member⟩
  apply least.congr
  · intro v
    by_cases member : v ∈ onto
    · simp [member, belongs v member]
    · simp only [member, if_false]
      exact least.belongs v
  · intro v listed
    by_cases member : v ∈ onto
    · rw [if_pos member, ← inside v member]
      exact (least_pin lawful based solution plain (SortedSet.mem_inter.mpr ⟨listed, member⟩)).symm
    · rw [if_neg member]

/-- The values of a valuation on some variables are part of a solution. -/
def Extends (K : LevelLattice Level) (cs : ConstraintSet) (onto : VarSet) (τ : Valuation) : Prop :=
  ∃ σ, Solution K cs σ ∧ ∀ v ∈ onto, σ v = τ v

theorem Extends.congr (extended : cs.Extends K onto τ) (agree : ∀ v ∈ onto, ρ v = τ v) :
    cs.Extends K onto ρ := by
  obtain ⟨σ, solution, same⟩ := extended
  exact ⟨σ, solution, fun v member => (same v member).trans (agree v member).symm⟩

theorem extends_iff (lawful : K.Lawful) (based : cs.Over K) (plain : ∀ c ∈ cs, c.kind ≠ .implies)
    (belongs : ∀ v ∈ onto, (τ v).Belongs K) :
    cs.Extends K onto τ ↔ ∀ c ∈ cs.project K onto, Flow.holds K τ c = true := by
  constructor
  · intro extended
    obtain ⟨σ, solution, agree⟩ := extended
    exact project_holds lawful based solution fun v member => (agree v member).symm
  · exact project_extends lawful based plain belongs

end ConstraintSet

theorem Checked.project_eq {domain : Domain} (built : domain.Built)
    (based : cs.Over domain.lattice) (onto : VarSet) :
    project domain cs onto = .ok (cs.project domain.lattice onto) := by
  have selected : select (entailedBy domain (Closure.ofSet domain.lattice cs))
      (ConstraintSet.candidates (cs.projectionOperands domain.lattice onto)) =
      .ok ((ConstraintSet.candidates (cs.projectionOperands domain.lattice onto)).filter
        (Closure.ofSet domain.lattice cs).entails) := by
    apply select_eq
    intro c listed
    obtain ⟨lhs, rhs⟩ := ConstraintSet.retained_of_mem_candidates listed
    exact entailedBy_eq built based lhs.known rhs.known
  unfold project ConstraintSet.project
  rw [closure_eq built based, built.elements_eq]
  simp only [bind, Except.bind, pure, Except.pure, selected]
  split <;> rfl

/-- Projection is existential elimination: it is never refused, mentions retained variables
only, is satisfied by every solution, and without `=>` by nothing that does not extend to a
solution. -/
theorem projection_exact {domain : Domain} (built : domain.Built) (based : cs.Over domain.lattice)
    (onto : VarSet) :
    ∃ projected, Checked.project domain cs onto = .ok projected ∧
      (∀ v ∈ projected.vars, v ∈ onto) ∧
      (∀ σ τ, Solution domain.lattice cs σ → (∀ v ∈ onto, τ v = σ v) →
        ∀ c ∈ projected, Flow.holds domain.lattice τ c = true) ∧
      ((∀ c ∈ cs, c.kind ≠ .implies) → ∀ τ, (∀ v ∈ onto, (τ v).Belongs domain.lattice) →
        (∀ c ∈ projected, Flow.holds domain.lattice τ c = true) →
        ∃ σ, Solution domain.lattice cs σ ∧ ∀ v ∈ onto, σ v = τ v) := by
  refine ⟨_, Checked.project_eq built based onto, ?_, ?_, ?_⟩
  · intro v listed
    exact (ConstraintSet.project_vars built.lawful based v listed).2
  · intro σ τ solution agree
    exact ConstraintSet.project_holds built.lawful based solution agree
  · intro plain τ belongs holds
    exact ConstraintSet.project_extends built.lawful based plain belongs holds

def meetingSample : ConstraintSet :=
  let x (index : Int) : Operand := .var ⟨1, .fresh, index⟩
  .ofList [.make (x 0) .flow (x 3), .make (x 1) .flow (x 3), .make (x 3) .flow (x 2)]

/-- Levels side by side for two variables of the sample, and the top for the others. -/
def meetingValues : Valuation := fun v =>
  if v.index = 0 then .level (.name "left")
  else if v.index = 1 then .level (.name "right")
  else .level (.name "top")

theorem projection_exact_meeting :
    let onto : VarSet := .ofList [⟨1, .fresh, 0⟩, ⟨1, .fresh, 1⟩, ⟨1, .fresh, 2⟩]
    Domain.diamond.Built ∧ meetingSample.Over Domain.diamond.lattice ∧
      ∃ σ, Solution Domain.diamond.lattice meetingSample σ ∧ ∀ v ∈ onto, σ v = meetingValues v := by
  intro onto
  have based : meetingSample.Over Domain.diamond.lattice := by decide +kernel
  obtain ⟨projected, computed, _, _, extended⟩ := projection_exact Domain.diamond_built based onto
  have answer := Checked.project_eq Domain.diamond_built based onto
  obtain rfl := Except.ok.inj (answer.symm.trans computed)
  have plain : ∀ c ∈ meetingSample, c.kind ≠ .implies := by decide +kernel
  have held : ∀ c ∈ meetingSample.project Domain.diamond.lattice onto,
      Flow.holds Domain.diamond.lattice meetingValues c = true := by
    decide +kernel
  refine ⟨Domain.diamond_built, based, extended plain meetingValues ?_ held⟩
  intro v _
  have names : ∀ name ∈ ["left", "right", "top"],
      Level.name name ∈ Domain.diamond.lattice.elements := by decide +kernel
  unfold meetingValues
  split
  · exact names "left" (by simp)
  · split
    · exact names "right" (by simp)
    · exact names "top" (by simp)

end FlowTyping
