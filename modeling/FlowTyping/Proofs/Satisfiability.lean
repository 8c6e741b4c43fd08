import FlowTyping.ConstraintSet.Algebra
import FlowTyping.Proofs.LeastSolution

namespace FlowTyping

variable {K : LevelLattice Level} {cs : ConstraintSet} {n : Operand}

theorem FlowGraph.mem_compatibilities {c : Flow} :
    c ∈ (FlowGraph.ofSet cs).compatibilities ↔
      c ∈ cs ∧ c.kind = .compatible ∧ c.lhs ≠ c.rhs := by
  show c ∈ FlowGraph.ofKind .compatible cs.toList ↔ _
  simp [FlowGraph.ofKind, Constraint.isTrivial, ConstraintSet.mem_toList]

theorem dynInto_none : DynInto cs .none n ↔ Spreads cs (.literal .dyn) n := by
  simp [DynInto, Demands.none]

theorem levelsInto_none : levelsInto cs .none n ≠ [] ↔ ∃ l, Flows cs (.literal (.level l)) n := by
  simp [levelsInto_ne_nil_iff, Demands.none]

namespace Closure

theorem upperLevels_known (based : cs.Over K) (known : n.Known K) :
    ∀ l ∈ (ofSet K cs).upperLevels n, l ∈ K.elements := by
  intro l member
  have flows : Flows cs n (.literal (.level l)) := FlowGraph.mem_upperLevels.mp member
  exact known_of_chain based known flows

theorem lowerLevels_known (based : cs.Over K) (known : n.Known K) :
    ∀ l ∈ (ofSet K cs).lowerLevels n, l ∈ K.elements := by
  intro l member
  have flows : Flows cs (.literal (.level l)) n := FlowGraph.mem_lowerLevels.mp member
  exact flows.known based known

theorem lowerLiterals_known (based : cs.Over K) (known : n.Known K) :
    ∀ l ∈ ((FlowGraph.ofSet cs).lowerLiterals n).filterMap Operand.level?, l ∈ K.elements := by
  intro l member
  apply lowerLevels_known based known l
  exact (List.Sublist.filterMap _ (List.sublist_cons_self _ _)).subset member

theorem highestLevel_mem (lawful : K.Lawful) (based : cs.Over K) (known : n.Known K) :
    (ofSet K cs).highestLevel n ∈ K.elements :=
  lawful.meetAll_mem (upperLevels_known based known)

theorem lowestLevel_mem (lawful : K.Lawful) (based : cs.Over K) (known : n.Known K) :
    (ofSet K cs).lowestLevel n ∈ K.elements :=
  lawful.joinAll_mem (lowerLevels_known based known)

theorem findReason?_eq_none {g : FlowGraph} {forced : List Operand}
    {forbidden : List LiteralFlow} :
    findReason? g forced forbidden = none ↔
      forbidden = [] ∧
      (∀ n ∈ forced, ¬ g.hasStaticLower n = true ∧ ¬ g.hasStaticUpper n = true) ∧
      ∀ c ∈ g.compatibilities, ¬ clashes g forced c = true := by
  cases forbidden with
  | cons first rest => simp [findReason?]
  | nil =>
    unfold findReason?
    cases found : forced.find? (fun n => g.hasStaticLower n || g.hasStaticUpper n) with
    | some n =>
      have member := List.mem_of_find?_eq_some found
      have bounded := List.find?_some found
      simp only [Bool.or_eq_true] at bounded
      simp only [reduceCtorEq, false_iff, true_and, not_and]
      intro free
      have both := free n member
      exact absurd bounded (not_or.mpr both)
    | none =>
      have free := List.find?_eq_none.mp found
      simp only [Option.map_eq_none_iff, List.find?_eq_none, true_and]
      constructor
      · intro calm
        refine ⟨?_, calm⟩
        intro n member
        simpa using free n member
      · exact And.right

theorem isSat_iff_findReason? :
    (ofSet K cs).isSat = true ↔
      findReason? (FlowGraph.ofSet cs) (FlowGraph.ofSet cs).forcedNodes
        (forbiddenFlows K (FlowGraph.ofSet cs)) = none := by
  show Option.isNone _ = true ↔ _
  exact Option.isNone_iff_eq_none

theorem forced_or_marker :
    (decide (n ∈ (FlowGraph.ofSet cs).forcedNodes) || n.isDyn) = true ↔
      Spreads cs (.literal .dyn) n := by
  simp only [Bool.or_eq_true, decide_eq_true_eq, FlowGraph.mem_forcedNodes, Operand.isDyn_iff]
  rw [or_comm, eq_comm]
  exact chain_iff.symm

theorem clashes_iff {c : Flow} :
    clashes (FlowGraph.ofSet cs) (FlowGraph.ofSet cs).forcedNodes c = true ↔
      Clash cs .none c.lhs c.rhs ∨ Clash cs .none c.rhs c.lhs := by
  simp only [clashes]
  rw [Bool.or_eq_true, Bool.and_eq_true, Bool.and_eq_true, forced_or_marker, forced_or_marker,
    FlowGraph.hasStaticLower_iff, FlowGraph.hasStaticLower_iff]
  simp only [Clash, dynInto_none, levelsInto_none]

theorem forbiddenFlows_eq_nil :
    forbiddenFlows K (FlowGraph.ofSet cs) = [] ↔
      ∀ lower upper : Literal, lower ≠ upper → Flows cs (.literal lower) (.literal upper) →
        lower.le K upper = true := by
  simp only [forbiddenFlows, List.filter_eq_nil_iff, Bool.not_eq_true', Bool.not_eq_false]
  constructor
  · intro allowed lower upper apart flows
    obtain ⟨f, member, rfl, rfl⟩ := FlowGraph.mem_literalFlows.mpr ⟨apart, flows⟩
    exact allowed f member
  · intro allowed f member
    obtain ⟨apart, flows⟩ := FlowGraph.mem_literalFlows.mp ⟨f, member, rfl, rfl⟩
    exact allowed f.lower f.upper apart flows

/-- The three tests of the closure amount to consistency. -/
theorem isSat_iff_consistent (lawful : K.Lawful) (based : cs.Over K) :
    (Closure.ofSet K cs).isSat = true ↔ Consistent K cs .none := by
  rw [isSat_iff_findReason?, findReason?_eq_none, forbiddenFlows_eq_nil]
  simp only [FlowGraph.mem_forcedNodes, FlowGraph.hasStaticLower_iff,
    FlowGraph.hasStaticUpper_iff, clashes_iff, FlowGraph.mem_compatibilities]
  constructor
  · rintro ⟨allowed, free, calm⟩
    have apart : ∀ n, ¬ Clash cs .none n n := by
      rintro n ⟨dynamic, holds⟩
      rw [dynInto_none] at dynamic
      obtain ⟨l, flows⟩ := levelsInto_none.mp holds
      by_cases same : n = .literal .dyn
      · subst same
        have wrong := allowed (.level l) .dyn (by simp) flows
        simp [Literal.le] at wrong
      · have mentioned := (mentioned_of_chain (Ne.symm same) dynamic).2
        exact (free n ⟨mentioned, dynamic⟩).1 ⟨l, flows⟩
    refine ⟨fun n _ => apart n, ?_, ?_⟩
    · intro u known l member
      have flows : Flows cs (.literal (.level l)) (.literal (.level u)) := by
        simpa [mem_levelsInto, Demands.none] using member
      by_cases same : l = u
      · exact same ▸ lawful.refl u known
      · exact allowed (.level l) (.level u) (by simpa using same) flows
    · intro c member kind
      by_cases same : c.lhs = c.rhs
      · rw [same]
        exact ⟨apart _, apart _⟩
      · exact not_or.mp (calm c ⟨member, kind, same⟩)
  · intro consistent
    have known := ConstraintSet.over_iff.mp based
    have notLevel : ∀ u, Mentioned cs (.literal (.level u)) →
        ¬ Spreads cs (.literal .dyn) (.literal (.level u)) := by
      intro u mentioned spreads
      exact consistent.apart _ (known _ mentioned)
        ⟨dynInto_none.mpr spreads, levelsInto_none.mpr ⟨u, .refl⟩⟩
    refine ⟨?_, ?_, ?_⟩
    · intro lower upper different flows
      have mentioned := mentioned_of_chain (by simpa using different) flows
      cases lower with
      | dyn =>
        cases upper with
        | dyn => rfl
        | level u => exact absurd flows.spreads (notLevel u mentioned.2)
      | level l =>
        cases upper with
        | dyn =>
          exact absurd ⟨dynInto_none.mpr .refl, levelsInto_none.mpr ⟨l, flows⟩⟩
            (consistent.apart (.literal .dyn) trivial)
        | level u =>
          exact consistent.bounded u (known _ mentioned.2) l (mem_levelsInto.mpr (Or.inl flows))
    · rintro n ⟨mentioned, spreads⟩
      constructor
      · intro lower
        exact consistent.apart n (known n mentioned)
          ⟨dynInto_none.mpr spreads, levelsInto_none.mpr lower⟩
      · rintro ⟨u, flows⟩
        have there : Mentioned cs (.literal (.level u)) := by
          by_cases same : n = .literal (.level u)
          · exact same ▸ mentioned
          · exact (mentioned_of_chain same flows).2
        exact notLevel u there (spreads.trans flows.spreads)
    · rintro c ⟨member, kind, _⟩
      exact not_or.mpr (consistent.compatible c member kind)

theorem isSat_iff (lawful : K.Lawful) (based : cs.Over K) :
    (Closure.ofSet K cs).isSat = true ↔ ∃ σ, Solution K cs σ := by
  rw [isSat_iff_consistent lawful based]
  constructor
  · intro consistent
    exact ⟨_, consistent.solution lawful based Demands.none_known⟩
  · rintro ⟨σ, solution⟩
    exact solution.consistent lawful based Demands.none_known Demands.none_met

end Closure

end FlowTyping
