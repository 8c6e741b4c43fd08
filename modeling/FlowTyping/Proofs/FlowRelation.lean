import FlowTyping.FlowGraph
import FlowTyping.Proofs.Reachability

/-!
What the graph of a set answers, said by two relations between operands. `Flows` follows
the `<=` constraints of the set, `Spreads` the `<=` and `=>` constraints; both allow no
step at all. Every question to the graph is a question about these relations, so later
arguments are inductions on chains of constraints and never look at the walk again.
-/

namespace FlowTyping

/-- A constraint of the set, of an admitted kind, leads from one operand to the other. -/
def Joined (cs : ConstraintSet) (along : Kind → Prop) (a b : Operand) : Prop :=
  ∃ c ∈ cs, along c.kind ∧ c.lhs = a ∧ c.rhs = b

/-- A chain of `<=` constraints leads from one operand to the other. -/
abbrev Flows (cs : ConstraintSet) : Operand → Operand → Prop :=
  Relation.ReflTransGen (Joined cs (· = .flow))

/-- A chain of `<=` and `=>` constraints leads from one operand to the other. -/
abbrev Spreads (cs : ConstraintSet) : Operand → Operand → Prop :=
  Relation.ReflTransGen (Joined cs (· ≠ .compatible))

/-- Some constraint of the set has the operand as a side. -/
def Mentioned (cs : ConstraintSet) (n : Operand) : Prop := ∃ c ∈ cs, c.lhs = n ∨ c.rhs = n

variable {cs : ConstraintSet} {a b n : Operand}

theorem ConstraintSet.mem_vars {v : TypeVar} : v ∈ cs.vars ↔ Mentioned cs (.var v) := by
  simp only [vars, SortedSet.mem_ofList, List.mem_flatMap, Flow.vars, List.mem_filterMap,
    Operand.var?_eq_some, Mentioned]
  constructor
  · rintro ⟨c, member, _, side, rfl⟩
    refine ⟨c, member, ?_⟩
    simpa [eq_comm] using side
  · rintro ⟨c, member, side⟩
    refine ⟨c, member, .var v, ?_, rfl⟩
    simpa [eq_comm] using side

theorem Flows.spreads (flows : Flows cs a b) : Spreads cs a b := by
  refine Relation.ReflTransGen.mono ?_ a b flows
  rintro x y ⟨c, member, kind, ends⟩
  exact ⟨c, member, by simp [kind], ends⟩

/-- Without `=>`, what is dynamic spreads along `<=` alone. -/
theorem Spreads.flows (plain : ∀ c ∈ cs, c.kind ≠ .implies) (spreads : Spreads cs a b) :
    Flows cs a b := by
  refine Relation.ReflTransGen.mono ?_ a b spreads
  rintro x y ⟨c, member, kind, ends⟩
  refine ⟨c, member, ?_, ends⟩
  cases same : c.kind with
  | flow => rfl
  | compatible => exact absurd same kind
  | implies => exact absurd same (plain c member)

theorem Flows.of_mem {c : Flow} (member : c ∈ cs) (kind : c.kind = .flow) :
    Flows cs c.lhs c.rhs :=
  .single ⟨c, member, kind, rfl, rfl⟩

theorem mentioned_of_chain {along : Kind → Prop} (apart : a ≠ b)
    (chain : Relation.ReflTransGen (Joined cs along) a b) : Mentioned cs a ∧ Mentioned cs b := by
  constructor
  · rcases chain.cases_head with same | ⟨_, ⟨c, member, _, lhs, _⟩, _⟩
    · exact absurd same apart
    · exact ⟨c, member, Or.inl lhs⟩
  · rcases chain.cases_tail with same | ⟨_, _, ⟨c, member, _, _, rhs⟩⟩
    · exact absurd same.symm apart
    · exact ⟨c, member, Or.inr rhs⟩

theorem chain_iff {along : Kind → Prop} :
    Relation.ReflTransGen (Joined cs along) a b ↔
      a = b ∨ Mentioned cs b ∧ Relation.ReflTransGen (Joined cs along) a b := by
  constructor
  · intro chain
    by_cases same : a = b
    · exact Or.inl same
    · exact Or.inr ⟨(mentioned_of_chain same chain).2, chain⟩
  · rintro (rfl | ⟨_, chain⟩)
    · exact .refl
    · exact chain

/-- Leaving out the steps that stay where they are loses no chain. -/
private theorem chain_without_loops {α : Type} {step : α → α → Prop} {x y : α} :
    Relation.ReflTransGen (fun x y => x ≠ y ∧ step x y) x y ↔ Relation.ReflTransGen step x y := by
  constructor
  · intro chain
    exact Relation.ReflTransGen.mono (fun _ _ moved => moved.2) x y chain
  · intro chain
    induction chain with
    | refl => exact .refl
    | @tail middle last _ stepped ih =>
      by_cases same : middle = last
      · exact same ▸ ih
      · exact ih.tail ⟨same, stepped⟩

/-- Chains along the arcs drawn for the constraints that pass a test are chains of such
constraints: the trivial ones, which draw no arc, add nothing. -/
private theorem chain_arcs_iff (along : Kind → Prop) {keep : Flow → Bool}
    (kept : ∀ c : Flow, keep c = true ↔ along c.kind ∧ c.lhs ≠ c.rhs) :
    Relation.ReflTransGen (Linked ((cs.toList.filter keep).map
      (fun c => (⟨c.lhs, c.rhs, c⟩ : Arc Operand Flow)))) a b ↔
      Relation.ReflTransGen (Joined cs along) a b := by
  have steps : Linked ((cs.toList.filter keep).map
      (fun c => (⟨c.lhs, c.rhs, c⟩ : Arc Operand Flow))) =
      fun x y => x ≠ y ∧ Joined cs along x y := by
    funext x y
    apply propext
    constructor
    · rintro ⟨arc, listed, rfl, rfl⟩
      obtain ⟨c, passed, rfl⟩ := List.mem_map.mp listed
      obtain ⟨member, test⟩ := List.mem_filter.mp passed
      obtain ⟨kind, apart⟩ := (kept c).mp test
      exact ⟨apart, c, member, kind, rfl, rfl⟩
    · rintro ⟨apart, c, member, kind, rfl, rfl⟩
      exact ⟨_, List.mem_map.mpr ⟨c, List.mem_filter.mpr ⟨member, (kept c).mpr ⟨kind, apart⟩⟩, rfl⟩,
        rfl, rfl⟩
  rw [steps, chain_without_loops]

namespace FlowGraph

theorem linked_flowArcs_iff :
    Relation.ReflTransGen (Linked (flowArcs cs.toList)) a b ↔ Flows cs a b := by
  unfold flowArcs ofKind
  exact chain_arcs_iff (· = .flow) (fun c => by simp [Constraint.isTrivial])

theorem linked_spreadArcs_iff :
    Relation.ReflTransGen (Linked (spreadArcs cs.toList)) a b ↔ Spreads cs a b := by
  unfold spreadArcs
  exact chain_arcs_iff (· ≠ .compatible) (fun c => by simp [Constraint.isTrivial])

theorem mem_nodes : n ∈ (ofSet cs).nodes ↔ Mentioned cs n := by
  show n ∈ operands cs.toList ↔ _
  unfold operands Mentioned
  rw [← SortedSet.mem_def, SortedSet.mem_ofList, List.mem_flatMap]
  constructor
  · rintro ⟨c, member, side⟩
    refine ⟨c, member, ?_⟩
    simpa [eq_comm] using side
  · rintro ⟨c, member, side⟩
    refine ⟨c, member, ?_⟩
    simpa [eq_comm] using side

theorem nodes_increasing (cs : ConstraintSet) :
    (ofSet cs).nodes.Pairwise (fun a b => compare a b = .lt) :=
  SortedSet.increasing _

/-- Behind a node of the graph stand the findings of the walk from it. -/
theorem successors_eq (cs : ConstraintSet) (a : Operand) :
    (ofSet cs).successors a =
      if a ∈ (ofSet cs).nodes then Reachability.reach (flowArcs cs.toList) a else [] := by
  show (((ofSet cs).nodes.map (fun n => (n, Reachability.reach (flowArcs cs.toList) n))).lookup
    a).getD [] = _
  rw [lookup_tabulated]
  split <;> rfl

theorem mem_successors :
    b ∈ ((ofSet cs).successors a).map Found.node ↔ a ≠ b ∧ Flows cs a b := by
  have walked : b ∈ (Reachability.reach (flowArcs cs.toList) a).map Found.node ↔
      a ≠ b ∧ Flows cs a b := by
    rw [Reachability.mem_reach_iff, linked_flowArcs_iff, ne_comm]
  rw [successors_eq]
  split
  · exact walked
  · rename_i missing
    simp only [List.map_nil, List.not_mem_nil, false_iff, not_and]
    intro apart flows
    exact missing (mem_nodes.mpr (mentioned_of_chain apart flows).1)

@[simp] theorem reaches_iff : (ofSet cs).reaches a b = true ↔ a ≠ b ∧ Flows cs a b := by
  rw [← mem_successors, reaches]
  simp [List.mem_map]

@[simp] theorem related_iff :
    (ofSet cs).related a b = true ↔ a ≠ b ∧ (Flows cs a b ∨ Flows cs b a) := by
  simp only [related, Bool.or_eq_true, reaches_iff, ne_comm (a := b) (b := a)]
  exact and_or_left.symm

theorem mem_spreadsTo : b ∈ (ofSet cs).spreadsTo a ↔ a ≠ b ∧ Spreads cs a b := by
  have walked : b ∈ (Reachability.reach (spreadArcs cs.toList) a).map Found.node ↔
      a ≠ b ∧ Spreads cs a b := by
    rw [Reachability.mem_reach_iff, linked_spreadArcs_iff, ne_comm]
  have row : (ofSet cs).spreadsTo a =
      if a ∈ (ofSet cs).nodes then (ofSet cs).nodes.filter (fun m =>
        decide (m ∈ (Reachability.reach (spreadArcs cs.toList) a).map Found.node)) else [] := by
    show (((ofSet cs).nodes.map (fun n => (n, (ofSet cs).nodes.filter (fun m =>
        decide (m ∈ (Reachability.reach (spreadArcs cs.toList) n).map Found.node))))).lookup
      a).getD [] = _
    rw [lookup_tabulated]
    split <;> rfl
  rw [row]
  split
  · rw [List.mem_filter, decide_eq_true_eq, walked, mem_nodes]
    constructor
    · exact And.right
    · intro spread
      exact ⟨(mentioned_of_chain spread.1 spread.2).2, spread⟩
  · rename_i missing
    simp only [List.not_mem_nil, false_iff, not_and]
    intro apart spreads
    exact missing (mem_nodes.mpr (mentioned_of_chain apart spreads).1)

theorem mem_predecessors : a ∈ (ofSet cs).predecessors n ↔ a ≠ n ∧ Flows cs a n := by
  rw [predecessors, List.mem_filter, reaches_iff, mem_nodes]
  constructor
  · exact And.right
  · intro flow
    exact ⟨(mentioned_of_chain flow.1 flow.2).1, flow⟩

theorem predecessors_increasing (cs : ConstraintSet) (n : Operand) :
    ((ofSet cs).predecessors n).Pairwise (fun a b => compare a b = .lt) :=
  (nodes_increasing cs).filter _

theorem predecessors_congr {ds : ConstraintSet} (same : ∀ a, Flows cs a n ↔ Flows ds a n) :
    (ofSet cs).predecessors n = (ofSet ds).predecessors n := by
  have members : (SortedSet.ofList ((ofSet cs).predecessors n) : SortedSet Operand compare) =
      SortedSet.ofList ((ofSet ds).predecessors n) := by
    apply SortedSet.ofList_eq_ofList_iff.mpr
    intro a
    rw [mem_predecessors, mem_predecessors, same a]
  rw [← SortedSet.toList_ofList (predecessors_increasing cs n), members,
    SortedSet.toList_ofList (predecessors_increasing ds n)]

@[simp] theorem hasStaticLower_iff :
    (ofSet cs).hasStaticLower n = true ↔ ∃ l, Flows cs (.literal (.level l)) n := by
  simp only [hasStaticLower, Bool.or_eq_true, List.any_eq_true, Bool.and_eq_true, reaches_iff,
    mem_nodes]
  constructor
  · rintro (static | ⟨source, _, static, _, flows⟩)
    · obtain ⟨l, rfl⟩ := Operand.isStatic_iff.mp static
      exact ⟨l, .refl⟩
    · obtain ⟨l, rfl⟩ := Operand.isStatic_iff.mp static
      exact ⟨l, flows⟩
  · rintro ⟨l, flows⟩
    by_cases same : Operand.literal (.level l) = n
    · exact Or.inl (by rw [← same]; rfl)
    · exact Or.inr ⟨_, (mentioned_of_chain same flows).1, rfl, same, flows⟩

@[simp] theorem hasDynLower_iff :
    (ofSet cs).hasDynLower n = true ↔ Flows cs (.literal .dyn) n := by
  simp only [hasDynLower, Bool.or_eq_true, List.any_eq_true, Bool.and_eq_true, reaches_iff,
    mem_nodes, Operand.isDyn_iff]
  constructor
  · rintro (rfl | ⟨_, _, rfl, _, flows⟩)
    · exact .refl
    · exact flows
  · intro flows
    by_cases same : n = .literal .dyn
    · exact Or.inl same
    · have apart : Operand.literal .dyn ≠ n := Ne.symm same
      exact Or.inr ⟨_, (mentioned_of_chain apart flows).1, rfl, apart, flows⟩

@[simp] theorem hasStaticUpper_iff :
    (ofSet cs).hasStaticUpper n = true ↔ ∃ l, Flows cs n (.literal (.level l)) := by
  rw [hasStaticUpper, Bool.or_eq_true, Operand.isStatic_iff]
  constructor
  · rintro (⟨l, rfl⟩ | later)
    · exact ⟨l, .refl⟩
    · obtain ⟨found, member, static⟩ := List.any_eq_true.mp later
      obtain ⟨l, node⟩ := Operand.isStatic_iff.mp static
      exact ⟨l, (mem_successors.mp (List.mem_map.mpr ⟨found, member, node⟩)).2⟩
  · rintro ⟨l, flows⟩
    by_cases same : n = .literal (.level l)
    · exact Or.inl ⟨l, same⟩
    · obtain ⟨found, member, node⟩ := List.mem_map.mp (mem_successors.mpr ⟨same, flows⟩)
      exact Or.inr (List.any_eq_true.mpr ⟨found, member, by simp [node]⟩)

theorem mem_forcedNodes :
    n ∈ (ofSet cs).forcedNodes ↔ Mentioned cs n ∧ Spreads cs (.literal .dyn) n := by
  simp only [forcedNodes, List.mem_filter, mem_nodes, Bool.or_eq_true, decide_eq_true_eq,
    List.any_eq_true, mem_spreadsTo, hasDynLower_iff]
  constructor
  · rintro ⟨mentioned, ⟨_, flows⟩ | ⟨seed, ⟨_, flows⟩, _, spreads⟩⟩
    · exact ⟨mentioned, flows.spreads⟩
    · exact ⟨mentioned, flows.spreads.trans spreads⟩
  · rintro ⟨mentioned, spreads⟩
    refine ⟨mentioned, ?_⟩
    by_cases same : n = .literal .dyn
    · exact Or.inl ⟨mentioned, same ▸ .refl⟩
    · have apart : Operand.literal .dyn ≠ n := Ne.symm same
      exact Or.inr ⟨_, ⟨(mentioned_of_chain apart spreads).1, .refl⟩, apart, spreads⟩

theorem mem_staticNodes :
    n ∈ (ofSet cs).staticNodes ↔
      Mentioned cs n ∧ ∃ l, Flows cs (.literal (.level l)) n := by
  rw [staticNodes, List.mem_filter, mem_nodes, hasStaticLower_iff]

theorem mem_literalFlowsFrom {f : LiteralFlow} :
    f ∈ (ofSet cs).literalFlowsFrom a ↔ a = .literal f.lower ∧
      ∃ found ∈ (ofSet cs).successors a, found.node = .literal f.upper ∧
        found.chain = f.chain := by
  unfold literalFlowsFrom
  split
  · rename_i other
    simp only [List.not_mem_nil, false_iff, not_and]
    intro literal
    simp [literal, Operand.literal?] at other
  · rename_i l shaped
    rw [Operand.literal?_eq_some] at shaped
    subst shaped
    simp only [List.mem_filterMap, Option.map_eq_some_iff, Operand.literal?_eq_some]
    constructor
    · intro listed
      obtain ⟨found, member, u, node, rfl⟩ := listed
      exact ⟨rfl, found, member, node, rfl⟩
    · intro listed
      obtain ⟨same, found, member, node, equal⟩ := listed
      refine ⟨found, member, f.upper, node, ?_⟩
      rw [equal, Operand.literal.inj same]

/-- The derived flows between literals are the chains between different ones. -/
theorem mem_literalFlows {lower upper : Literal} :
    (∃ f ∈ (ofSet cs).literalFlows, f.lower = lower ∧ f.upper = upper) ↔
      lower ≠ upper ∧ Flows cs (.literal lower) (.literal upper) := by
  simp only [literalFlows, literals, List.mem_flatMap, List.mem_filter, Operand.isLiteral_iff]
  constructor
  · rintro ⟨f, ⟨_, _, listed⟩, rfl, rfl⟩
    obtain ⟨rfl, found, member, node, _⟩ := mem_literalFlowsFrom.mp listed
    have reached := mem_successors.mp (List.mem_map.mpr ⟨found, member, node⟩)
    exact ⟨fun same => reached.1 (congrArg Operand.literal same), reached.2⟩
  · rintro ⟨apart, flows⟩
    have different : Operand.literal lower ≠ .literal upper := by simpa using apart
    obtain ⟨found, member, node⟩ := List.mem_map.mp (mem_successors.mpr ⟨different, flows⟩)
    refine ⟨⟨lower, upper, found.chain⟩, ⟨.literal lower, ⟨?_, lower, rfl⟩, ?_⟩, rfl, rfl⟩
    · exact mem_nodes.mpr (mentioned_of_chain different flows).1
    · exact mem_literalFlowsFrom.mpr ⟨rfl, found, member, node, rfl⟩

/-- The levels of some operands, a node among them, and of the literals that flow into it. -/
theorem mem_lowerLevels {l : Level} :
    l ∈ (n :: (ofSet cs).lowerLiterals n).filterMap Operand.level? ↔
      Flows cs (.literal (.level l)) n := by
  simp only [List.mem_filterMap, List.mem_cons, Operand.level?_eq_some, lowerLiterals,
    List.mem_filter, mem_predecessors]
  constructor
  · rintro ⟨_, rfl | ⟨⟨_, flows⟩, _⟩, rfl⟩
    · exact .refl
    · exact flows
  · intro flows
    by_cases same : Operand.literal (.level l) = n
    · exact ⟨_, Or.inl same, rfl⟩
    · exact ⟨_, Or.inr ⟨⟨same, flows⟩, rfl⟩, rfl⟩

theorem mem_upperLevels {l : Level} :
    l ∈ (n :: (ofSet cs).upperLiterals n).filterMap Operand.level? ↔
      Flows cs n (.literal (.level l)) := by
  simp only [List.mem_filterMap, List.mem_cons, Operand.level?_eq_some, upperLiterals,
    List.mem_filter, mem_successors]
  constructor
  · rintro ⟨_, rfl | ⟨⟨_, flows⟩, _⟩, rfl⟩
    · exact .refl
    · exact flows
  · intro flows
    by_cases same : n = .literal (.level l)
    · exact ⟨_, Or.inl same.symm, rfl⟩
    · exact ⟨_, Or.inr ⟨⟨same, flows⟩, rfl⟩, rfl⟩

end FlowGraph

end FlowTyping
