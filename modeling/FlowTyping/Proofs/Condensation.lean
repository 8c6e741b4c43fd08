import FlowTyping.Proofs.Entailment

namespace FlowTyping

variable {K : LevelLattice Level} {cs kept : ConstraintSet} {σ : Valuation}

/-- The order of literals on operands; a variable is below itself only. -/
def Operand.Below (K : LevelLattice Level) : Operand → Operand → Prop
  | .literal l, .literal m => l.le K m = true
  | a, b => a = b

namespace Operand.Below

variable {a b c : Operand}

theorem value_le (below : a.Below K b) (lawful : K.Lawful) (belongs : ∀ v, (σ v).Belongs K) :
    Value.le K (a.value σ) (b.value σ) = true := by
  rcases a with l | x <;> rcases b with m | y
  · exact Literal.le_eq K l m ▸ below
  · cases below
  · cases below
  · obtain rfl := Operand.var.inj below
    exact Value.le_refl lawful (belongs x)

theorem trans (first : a.Below K b) (lawful : K.Lawful) (knownA : a.Known K)
    (knownB : b.Known K) (knownC : c.Known K) (second : b.Below K c) : a.Below K c := by
  rcases a with k | x <;> rcases b with l | y <;> rcases c with m | z <;>
    simp_all [Below]
  rw [Literal.le_eq] at *
  exact Value.le_trans lawful knownA.literal knownB.literal knownC.literal first second

theorem antisymm (below : a.Below K b) (lawful : K.Lawful) (knownA : a.Known K)
    (knownB : b.Known K) (above : b.Below K a) : a = b := by
  rcases a with l | x <;> rcases b with m | y <;> simp_all [Below]
  rw [Literal.le_eq] at *
  have same := Value.le_antisymm lawful knownA.literal knownB.literal below above
  cases l <;> cases m <;> simp_all [Value.ofLiteral]

end Operand.Below

namespace ConstraintSet

theorem dropDerivable_subset (asked : List Flow) :
    ∀ c ∈ kept.dropDerivable K asked, c ∈ kept := by
  induction asked generalizing kept with
  | nil => exact fun _ member => member
  | cons first rest ih =>
    intro c member
    have there := ih c member
    split at there
    · exact (mem_erase.mp there).1
    · exact there

theorem erase_solution_iff {c : Flow} (entailed : Entails K (kept.erase c) c) :
    Solution K (kept.erase c) σ ↔ Solution K kept σ := by
  constructor
  · intro solution
    refine ⟨solution.belongs, fun d member => ?_⟩
    by_cases same : d = c
    · exact same ▸ entailed σ solution
    · exact solution.holds d (mem_erase.mpr ⟨member, same⟩)
  · intro solution
    exact solution.subset (erase_subset c)

theorem dropDerivable_solution_iff (lawful : K.Lawful) (based : kept.Over K) {asked : List Flow}
    (known : ∀ c ∈ asked, c.lhs.Known K ∧ c.rhs.Known K) :
    Solution K (kept.dropDerivable K asked) σ ↔ Solution K kept σ := by
  induction asked generalizing kept with
  | nil => rfl
  | cons first rest ih =>
    have later := fun c member => known c (List.mem_cons_of_mem first member)
    obtain ⟨knownLhs, knownRhs⟩ := known first (by simp)
    have erased : (kept.erase first).Over K := based.subset (erase_subset first)
    show Solution K (dropDerivable K rest _) σ ↔ _
    split
    · rename_i answer
      rw [ih erased later]
      exact erase_solution_iff ((Closure.entails_iff lawful erased knownLhs knownRhs).mp answer)
    · exact ih based later

theorem minimize_subset : ∀ c ∈ cs.minimize K, c ∈ cs := by
  intro c member
  exact (mem_filter.mp (dropDerivable_subset _ c member)).1

theorem minimize_solution_iff (lawful : K.Lawful) (based : cs.Over K) :
    Solution K (cs.minimize K) σ ↔ Solution K cs σ := by
  have part : ∀ c ∈ cs.filter (fun c => !c.isTrivial), c ∈ cs := filter_subset _
  have dropped : Solution K (cs.minimize K) σ ↔ Solution K (cs.filter (fun c => !c.isTrivial)) σ :=
    dropDerivable_solution_iff lawful (based.subset part)
      fun c member => based.known (part c member)
  rw [dropped]
  constructor
  · intro solution
    refine ⟨solution.belongs, fun c member => ?_⟩
    by_cases trivial : c.lhs = c.rhs
    · rw [Flow.holds, trivial]
      exact Value.holds_self lawful c.kind ((based.known member).2.belongs solution.belongs)
    · apply solution.holds c
      exact mem_filter.mpr ⟨member, by simpa [Constraint.isTrivial] using trivial⟩
  · exact fun solution => solution.subset part

/-- A tighter bound has one side in common with the other and a literal, inside the
other's, on the other side. -/
theorem tighter_iff {c d : Flow} :
    tighter K c d = true ↔ d.kind = .flow ∧ d ≠ c ∧ c.lhs.isLiteral ≠ c.rhs.isLiteral ∧
      c.lhs.Below K d.lhs ∧ d.rhs.Below K c.rhs := by
  simp only [tighter, Bool.and_eq_true, decide_eq_true_eq, and_assoc]
  apply and_congr_right
  intro _
  apply and_congr_right
  intro _
  cases c.lhs <;> cases c.rhs <;> cases d.lhs <;> cases d.rhs <;>
    simp [Operand.Below, Operand.isLiteral, @eq_comm TypeVar]
  exact and_comm

theorem tighter_trans (lawful : K.Lawful) (based : cs.Over K) {c d e : Flow} (flow : c.kind = .flow)
    (memberC : c ∈ cs) (memberD : d ∈ cs) (memberE : e ∈ cs) (first : tighter K c d = true)
    (second : tighter K d e = true) : tighter K c e = true := by
  obtain ⟨flowD, apart, bound, lower, upper⟩ := tighter_iff.mp first
  obtain ⟨flowE, _, _, lower', upper'⟩ := tighter_iff.mp second
  obtain ⟨knownC, knownC'⟩ := based.known memberC
  obtain ⟨knownD, knownD'⟩ := based.known memberD
  obtain ⟨knownE, knownE'⟩ := based.known memberE
  refine tighter_iff.mpr ⟨flowE, ?_, bound, lower.trans lawful knownC knownD knownE lower',
    upper'.trans lawful knownE' knownD' knownC' upper⟩
  rintro rfl
  have lhs := lower.antisymm lawful knownC knownD lower'
  have rhs := upper.antisymm lawful knownD' knownC' upper'
  exact apart (Constraint.eq_of_parts lhs.symm (flowD.trans flow.symm) rhs)

theorem holds_of_tighter (lawful : K.Lawful) (belongs : ∀ v, (σ v).Belongs K) {c d : Flow}
    (knownC : c.lhs.Known K ∧ c.rhs.Known K) (knownD : d.lhs.Known K ∧ d.rhs.Known K)
    (flow : c.kind = .flow) (tight : tighter K c d = true) (holds : Flow.holds K σ d = true) :
    Flow.holds K σ c = true := by
  obtain ⟨flowD, _, _, lower, upper⟩ := tighter_iff.mp tight
  rw [Flow.holds, flowD] at holds
  rw [Flow.holds, flow]
  have start := lower.value_le lawful belongs
  have finish := upper.value_le lawful belongs
  have rest := Value.le_trans lawful (knownD.1.belongs belongs) (knownD.2.belongs belongs)
    (knownC.2.belongs belongs) holds finish
  exact Value.le_trans lawful (knownC.1.belongs belongs) (knownD.1.belongs belongs)
    (knownC.2.belongs belongs) start rest

theorem tightest_subset : ∀ c ∈ cs.tightest K, c ∈ cs := by
  intro c member
  exact (mem_filter.mp member).1

/-- Going to a tighter bound leaves fewer that are tighter still. -/
theorem tighter_length_lt (lawful : K.Lawful) (based : cs.Over K) {c d : Flow}
    (flow : c.kind = .flow) (memberC : c ∈ cs) (memberD : d ∈ cs)
    (tight : tighter K c d = true) :
    (cs.toList.filter (tighter K d)).length < (cs.toList.filter (tighter K c)).length := by
  have nested : cs.toList.filter (tighter K d) =
      (cs.toList.filter (tighter K c)).filter (tighter K d) := by
    rw [List.filter_filter]
    apply List.filter_congr
    intro e memberE
    cases second : tighter K d e with
    | false => rfl
    | true =>
      rw [tighter_trans lawful based flow memberC memberD memberE tight second]
      rfl
  rw [nested]
  apply List.length_filter_lt_length_iff_exists.mpr
  refine ⟨d, List.mem_filter.mpr ⟨memberD, tight⟩, ?_⟩
  simp [tighter_iff]

/-- Every flow of a set is kept among the tightest or has a tighter one among them. -/
theorem exists_tightest (lawful : K.Lawful) (based : cs.Over K) {c : Flow} (flow : c.kind = .flow)
    (member : c ∈ cs) :
    c ∈ cs.tightest K ∨ ∃ d ∈ cs.tightest K, tighter K c d = true := by
  induction bound : (cs.toList.filter (tighter K c)).length using Nat.strongRecOn
    generalizing c with
  | _ count ih =>
    by_cases loose : cs.toList.any (tighter K c) = true
    · obtain ⟨d, memberD, tight⟩ := List.any_eq_true.mp loose
      have flowD := (tighter_iff.mp tight).1
      have fewer := tighter_length_lt lawful based flow member memberD tight
      rcases ih _ (bound ▸ fewer) flowD memberD rfl with kept | ⟨e, kept, tighter'⟩
      · exact Or.inr ⟨d, kept, tight⟩
      · exact Or.inr ⟨e, kept, tighter_trans lawful based flow member memberD
          (tightest_subset e kept) tight tighter'⟩
    · refine Or.inl (mem_filter.mpr ⟨member, ?_⟩)
      simp [loose]

theorem holds_of_tightest (lawful : K.Lawful) (based : cs.Over K) (belongs : ∀ v, (σ v).Belongs K)
    (holds : ∀ d ∈ cs.tightest K, d.kind = .flow → Flow.holds K σ d = true) {c : Flow}
    (member : c ∈ cs) (flow : c.kind = .flow) : Flow.holds K σ c = true := by
  rcases exists_tightest lawful based flow member with kept | ⟨d, kept, tight⟩
  · exact holds c kept flow
  · exact holds_of_tighter lawful belongs (based.known member)
      (based.known (tightest_subset d kept)) flow tight (holds d kept (tighter_iff.mp tight).1)

/-- The tightest flows of a set. -/
def backbone (K : LevelLattice Level) (cs : ConstraintSet) : ConstraintSet :=
  (cs.tightest K).filter (fun c => decide (c.kind = .flow))

/-- What condensing has left when it starts to minimize. -/
def core (K : LevelLattice Level) (cs : ConstraintSet) : ConstraintSet :=
  (cs.tightest K).filter (fun c => decide (c.kind = .flow) || !(cs.backbone K).entails K c)

theorem condense_eq : cs.condense K = (cs.core K).minimize K := rfl

theorem mem_tightest {c : Flow} :
    c ∈ cs.tightest K ↔
      c ∈ cs ∧ (c.kind = .flow → ∀ d ∈ cs, ¬ tighter K c d = true) := by
  simp only [tightest, mem_filter, Bool.or_eq_true, decide_eq_true_eq, Bool.not_eq_true',
    List.any_eq_false, mem_toList]
  apply and_congr_right
  intro _
  by_cases flow : c.kind = .flow <;> simp [flow]

theorem mem_backbone {c : Flow} : c ∈ cs.backbone K ↔ c ∈ cs.tightest K ∧ c.kind = .flow := by
  simp [backbone]

theorem core_subset : ∀ c ∈ cs.core K, c ∈ cs := fun c member =>
  tightest_subset c (mem_filter.mp member).1

theorem backbone_subset_core : ∀ c ∈ cs.backbone K, c ∈ cs.core K := by
  intro c member
  obtain ⟨tight, flow⟩ := mem_backbone.mp member
  exact mem_filter.mpr ⟨tight, by simp [flow]⟩

theorem backbone_over (based : cs.Over K) : (cs.backbone K).Over K :=
  based.subset fun c member => core_subset c (backbone_subset_core c member)

theorem mem_core (lawful : K.Lawful) (based : cs.Over K) {c : Flow} :
    c ∈ cs.core K ↔ c ∈ cs.tightest K ∧ (c.kind = .flow ∨ ¬ Entails K (cs.backbone K) c) := by
  rw [core, mem_filter]
  apply and_congr_right
  intro tight
  obtain ⟨left, right⟩ := based.known (tightest_subset c tight)
  rw [← Closure.entails_iff lawful (backbone_over based) left right]
  simp [entails]

theorem holds_of_backbone (lawful : K.Lawful) (based : cs.Over K)
    (solution : Solution K (cs.backbone K) σ) :
    ∀ c ∈ cs, c.kind = .flow → Flow.holds K σ c = true := by
  intro c member flow
  apply holds_of_tightest lawful based solution.belongs _ member flow
  intro d tight flow
  exact solution.holds d (mem_backbone.mpr ⟨tight, flow⟩)

/-- What is no flow is in the core or follows from the tightest flows. -/
theorem entailed_of_not_mem_core (lawful : K.Lawful) (based : cs.Over K) {c : Flow}
    (member : c ∈ cs) (other : c.kind ≠ .flow) (missing : c ∉ cs.core K) :
    Entails K (cs.backbone K) c := by
  have tight : c ∈ cs.tightest K := mem_tightest.mpr ⟨member, fun flow => absurd flow other⟩
  apply Classical.byContradiction
  intro free
  exact missing ((mem_core lawful based).mpr ⟨tight, Or.inr free⟩)

theorem core_solution_iff (lawful : K.Lawful) (based : cs.Over K) :
    Solution K (cs.core K) σ ↔ Solution K cs σ := by
  constructor
  · intro solution
    have flows : Solution K (cs.backbone K) σ := solution.subset backbone_subset_core
    refine ⟨solution.belongs, fun c member => ?_⟩
    by_cases flow : c.kind = .flow
    · exact holds_of_backbone lawful based flows c member flow
    · by_cases inside : c ∈ cs.core K
      · exact solution.holds c inside
      · exact entailed_of_not_mem_core lawful based member flow inside σ flows
  · exact fun solution => solution.subset core_subset

theorem condense_subset_core : ∀ c ∈ cs.condense K, c ∈ cs.core K := by
  intro c member
  rw [condense_eq] at member
  exact minimize_subset c member

theorem condense_subset : ∀ c ∈ cs.condense K, c ∈ cs := fun c member =>
  core_subset c (condense_subset_core c member)

theorem condense_solution_iff (lawful : K.Lawful) (based : cs.Over K) :
    Solution K (cs.condense K) σ ↔ Solution K cs σ := by
  rw [condense_eq, minimize_solution_iff lawful (based.subset core_subset)]
  exact core_solution_iff lawful based

end ConstraintSet

end FlowTyping
