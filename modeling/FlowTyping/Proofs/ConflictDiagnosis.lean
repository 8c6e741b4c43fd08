import FlowTyping.Diagnosis
import FlowTyping.Proofs.GuardedAgreement
import FlowTyping.Proofs.ShortestChains

namespace FlowTyping

variable {K : LevelLattice Level} {cs : ConstraintSet} {a b n : Operand} {chain : List Flow}
variable {lower upper : Literal}

/-- The constraints of a list are flows that lead, one after the other, from an operand to
another. -/
def Leads : List Flow → Operand → Operand → Prop
  | [], a, b => a = b
  | c :: rest, a, b => c.kind = .flow ∧ c.lhs = a ∧ Leads rest c.rhs b

/-- A chain of constraints of a set from one operand to another, than which none is shorter. -/
structure ShortestChain (cs : ConstraintSet) (a b : Operand) (chain : List Flow) : Prop where
  part : ∀ c ∈ chain, c ∈ cs
  leads : Leads chain a b
  shortest : ∀ other, (∀ c ∈ other, c ∈ cs) → Leads other a b → chain.length ≤ other.length

namespace Leads

theorem snoc {c : Flow} (leads : Leads chain a c.lhs) (kind : c.kind = .flow) :
    Leads (chain ++ [c]) a c.rhs := by
  induction chain generalizing a with
  | nil => exact ⟨kind, leads.symm, rfl⟩
  | cons first rest ih =>
    obtain ⟨flow, lhs, later⟩ := leads
    exact ⟨flow, lhs, ih later⟩

theorem flows (leads : Leads chain a b) (part : ∀ c ∈ chain, c ∈ cs) : Flows cs a b := by
  induction chain generalizing a with
  | nil => exact leads ▸ .refl
  | cons first rest ih =>
    obtain ⟨flow, rfl, later⟩ := leads
    have behind := ih later fun c member => part c (List.mem_cons_of_mem first member)
    exact (Flows.of_mem (part first (by simp)) flow).trans behind

end Leads

namespace FlowGraph

theorem mem_flowArcs {arc : Arc Operand Flow} :
    arc ∈ flowArcs cs.toList ↔
      ∃ c ∈ cs, c.kind = .flow ∧ c.lhs ≠ c.rhs ∧ arc = ⟨c.lhs, c.rhs, c⟩ := by
  simp only [flowArcs, ofKind, List.mem_map, List.mem_filter, Constraint.isTrivial,
    ConstraintSet.mem_toList, Bool.and_eq_true, decide_eq_true_eq, Bool.not_eq_true',
    decide_eq_false_iff_not, and_assoc, eq_comm (a := arc), ne_eq]

theorem leads_of_path (path : Path (flowArcs cs.toList) a b chain) :
    (∀ c ∈ chain, c ∈ cs) ∧ Leads chain a b := by
  induction path with
  | here => exact ⟨by simp, rfl⟩
  | step before member leaves ih =>
    obtain ⟨c, there, kind, _, rfl⟩ := mem_flowArcs.mp member
    obtain ⟨part, leads⟩ := ih
    subst leaves
    refine ⟨?_, leads.snoc kind⟩
    intro d listed
    rcases List.mem_append.mp listed with earlier | last
    · exact part d earlier
    · rw [List.mem_singleton.mp last]
      exact there

/-- A chain of constraints becomes a chain of arcs once the trivial ones are left out. -/
theorem exists_path_of_leads {start : Operand} {before : List Flow}
    (path : Path (flowArcs cs.toList) start a before) (part : ∀ c ∈ chain, c ∈ cs)
    (leads : Leads chain a b) :
    ∃ longer, Path (flowArcs cs.toList) start b longer ∧
      longer.length ≤ before.length + chain.length := by
  induction chain generalizing a before with
  | nil => exact ⟨before, leads ▸ path, by simp⟩
  | cons first rest ih =>
    obtain ⟨kind, rfl, later⟩ := leads
    have others : ∀ c ∈ rest, c ∈ cs := fun c member =>
      part c (List.mem_cons_of_mem first member)
    by_cases same : first.lhs = first.rhs
    · -- A trivial constraint stays where it is and draws no arc.
      obtain ⟨longer, reached, bound⟩ := ih (same ▸ path) others later
      refine ⟨longer, reached, ?_⟩
      rw [List.length_cons]
      omega
    · have arc := mem_flowArcs.mpr ⟨first, part first (by simp), kind, same, rfl⟩
      obtain ⟨longer, reached, bound⟩ := ih (.step path arc rfl) others later
      refine ⟨longer, reached, ?_⟩
      rw [List.length_append, List.length_singleton] at bound
      rw [List.length_cons]
      omega

/-- The chain kept for a node is a shortest chain of constraints to it. -/
theorem shortestChain_of_mem_successors {found : Found Operand Flow}
    (member : found ∈ (ofSet cs).successors a) : ShortestChain cs a found.node found.chain := by
  rw [successors_eq] at member
  split at member
  · obtain ⟨path, minimal⟩ := Reachability.shortest_of_mem_reach member
    obtain ⟨part, leads⟩ := leads_of_path path
    refine ⟨part, leads, ?_⟩
    intro other otherPart otherLeads
    obtain ⟨arcs, walked, bound⟩ := exists_path_of_leads .here otherPart otherLeads
    have least := minimal arcs walked
    simp only [List.length_nil, Nat.zero_add] at bound
    omega
  · simp at member

/-- A node keeps one chain for each node behind it, shorter chains first. -/
theorem successors_pairwise (cs : ConstraintSet) (a : Operand) :
    ((ofSet cs).successors a).Pairwise
      (fun f g => f.node ≠ g.node ∧ f.chain.length ≤ g.chain.length) := by
  rw [successors_eq]
  split
  · exact Reachability.reach_pairwise _ a
  · exact .nil

end FlowGraph

/-- Derived flows between literals come by their sources in order; those of one source lead to
different targets, shorter chains first. -/
def LiteralFlow.Precedes (f g : LiteralFlow) : Prop :=
  compare (Operand.literal f.lower) (.literal g.lower) = .lt ∨
    f.lower = g.lower ∧ f.upper ≠ g.upper ∧ f.chain.length ≤ g.chain.length

theorem LiteralFlow.Precedes.apart {f g : LiteralFlow} (before : f.Precedes g) :
    (f.lower, f.upper) ≠ (g.lower, g.upper) := by
  intro same
  obtain ⟨lowers, uppers⟩ := Prod.mk.inj same
  rcases before with less | ⟨_, different, _⟩
  · rw [lowers] at less
    exact Std.OrientedCmp.not_lt_of_lt less less
  · exact different uppers

theorem FlowGraph.literalFlowsFrom_pairwise (cs : ConstraintSet) (a : Operand) :
    ((ofSet cs).literalFlowsFrom a).Pairwise LiteralFlow.Precedes := by
  unfold literalFlowsFrom
  split
  · exact .nil
  · apply List.pairwise_filterMap.mpr
    apply (successors_pairwise cs a).imp
    intro first second ordered f shapedF g shapedG
    obtain ⟨u, node, rfl⟩ := Option.map_eq_some_iff.mp shapedF
    obtain ⟨u', node', rfl⟩ := Option.map_eq_some_iff.mp shapedG
    refine Or.inr ⟨rfl, ?_, ordered.2⟩
    intro same
    apply ordered.1
    rw [Operand.literal?_eq_some.mp node, Operand.literal?_eq_some.mp node']
    exact congrArg Operand.literal same

theorem FlowGraph.literalFlows_pairwise (cs : ConstraintSet) :
    (ofSet cs).literalFlows.Pairwise LiteralFlow.Precedes := by
  apply List.pairwise_flatMap.mpr
  refine ⟨fun a _ => literalFlowsFrom_pairwise cs a, ?_⟩
  apply ((nodes_increasing cs).filter Operand.isLiteral).imp
  intro first second less f listedF g listedG
  obtain ⟨rfl, _⟩ := mem_literalFlowsFrom.mp listedF
  obtain ⟨rfl, _⟩ := mem_literalFlowsFrom.mp listedG
  exact Or.inl less

theorem FlowGraph.shortestChain_of_mem_literalFlows {f : LiteralFlow}
    (member : f ∈ (ofSet cs).literalFlows) :
    ShortestChain cs (.literal f.lower) (.literal f.upper) f.chain := by
  obtain ⟨a, _, listed⟩ := List.mem_flatMap.mp member
  obtain ⟨rfl, found, there, node, same⟩ := mem_literalFlowsFrom.mp listed
  rw [← node, ← same]
  exact shortestChain_of_mem_successors there

/-- A chain between different literals that are not in order has no solution. -/
theorem Leads.unsolvable (lawful : K.Lawful) (based : cs.Over K) (part : ∀ c ∈ chain, c ∈ cs)
    (leads : Leads chain (.literal lower) (.literal upper)) (apart : lower ≠ upper)
    (forbidden : lower.le K upper = false) : ¬ ∃ σ, Solution K (.ofList chain) σ := by
  intro solved
  obtain ⟨σ, solution⟩ := solved
  have alone : (ConstraintSet.ofList chain).Over K :=
    based.subset fun c member => part c (ConstraintSet.mem_ofList.mp member)
  have flows : Flows (.ofList chain) (.literal lower) (.literal upper) :=
    leads.flows fun c member => ConstraintSet.mem_ofList.mpr member
  have ends := mentioned_of_chain (by simpa using apart) flows
  have known := ConstraintSet.over_iff.mp alone _ ends.2
  have ordered := solution.le_of_flows lawful alone known flows
  rw [Literal.le_eq] at forbidden
  exact absurd ordered (Bool.eq_false_iff.mp forbidden)

/-- What a set without the marker mentions never becomes dynamic. -/
theorem not_spreads_of_unmarked (unmarked : ¬ Mentioned cs (.literal .dyn))
    (mentioned : Mentioned cs n) : ¬ Spreads cs (.literal .dyn) n := by
  intro spreads
  by_cases same : Operand.literal .dyn = n
  · exact unmarked (same ▸ mentioned)
  · exact unmarked (mentioned_of_chain same spreads).1

namespace Closure

theorem mem_forbiddenFlows :
    (∃ f ∈ forbiddenFlows K (FlowGraph.ofSet cs), f.lower = lower ∧ f.upper = upper) ↔
      lower ≠ upper ∧ Flows cs (.literal lower) (.literal upper) ∧ lower.le K upper = false := by
  simp only [forbiddenFlows, List.mem_filter, Bool.not_eq_true']
  rw [← and_assoc, ← FlowGraph.mem_literalFlows]
  constructor
  · intro listed
    obtain ⟨f, ⟨member, forbidden⟩, rfl, rfl⟩ := listed
    exact ⟨⟨f, member, rfl, rfl⟩, forbidden⟩
  · intro derived
    obtain ⟨⟨f, member, rfl, rfl⟩, forbidden⟩ := derived
    exact ⟨f, ⟨member, forbidden⟩, rfl, rfl⟩

/-- Every forbidden flow is told as a conflict: a set with a solution has none. -/
theorem conflicts_ofSet (K : LevelLattice Level) (cs : ConstraintSet) (tags : TagMap) :
    (ofSet K cs).conflicts tags =
      (forbiddenFlows K (FlowGraph.ofSet cs)).map (LiteralFlow.conflict tags) := by
  unfold conflicts
  split
  · rename_i sat
    have nothing := (findReason?_eq_none.mp (isSat_iff_findReason?.mp sat)).1
    rw [nothing, List.map_nil]
  · rfl

theorem exists_conflict_iff {tags : TagMap} :
    (∃ c ∈ (ofSet K cs).conflicts tags, c.lower = lower ∧ c.upper = upper) ↔
      lower ≠ upper ∧ Flows cs (.literal lower) (.literal upper) ∧ lower.le K upper = false := by
  rw [← mem_forbiddenFlows, conflicts_ofSet]
  constructor
  · intro listed
    obtain ⟨c, member, lowers, uppers⟩ := listed
    obtain ⟨f, there, rfl⟩ := List.mem_map.mp member
    exact ⟨f, there, lowers, uppers⟩
  · intro derived
    obtain ⟨f, there, lowers, uppers⟩ := derived
    exact ⟨_, List.mem_map.mpr ⟨f, there, rfl⟩, lowers, uppers⟩

/-- Without the marker, forbidden flows are all that can go wrong. -/
theorem forbiddenFlows_eq_nil_iff_isSat (unmarked : ¬ Mentioned cs (.literal .dyn)) :
    forbiddenFlows K (FlowGraph.ofSet cs) = [] ↔ (ofSet K cs).isSat = true := by
  rw [isSat_iff_findReason?, findReason?_eq_none]
  constructor
  · intro nothing
    refine ⟨nothing, ?_, ?_⟩
    · intro n forced
      obtain ⟨mentioned, spreads⟩ := FlowGraph.mem_forcedNodes.mp forced
      exact absurd spreads (not_spreads_of_unmarked unmarked mentioned)
    · intro c member clash
      obtain ⟨there, _⟩ := FlowGraph.mem_compatibilities.mp member
      rcases clashes_iff.mp clash with ⟨dynamic, _⟩ | ⟨dynamic, _⟩
      · exact not_spreads_of_unmarked unmarked ⟨c, there, Or.inl rfl⟩ (dynInto_none.mp dynamic)
      · exact not_spreads_of_unmarked unmarked ⟨c, there, Or.inr rfl⟩ (dynInto_none.mp dynamic)
  · exact And.left

end Closure

/-- Conflict diagnosis is sound and complete. A set has one conflict for each forbidden flow
between different literals and no other. There is a shortest chain behind each conflict, which
alone has no solution and whose first and last constraint give the tags; conflicts come by
source, then by the length of their chains. A set that does not mention the marker has a solution
exactly when it has no conflict. -/
theorem conflict_diagnosis_exact {domain : Domain} (built : domain.Built)
    (based : cs.Over domain.lattice) (tags : TagMap) :
    ∃ closure flows, Checked.closure domain cs = .ok closure ∧
      closure.conflicts tags = List.map (fun f : LiteralFlow =>
        ⟨f.lower, f.chain.head?.bind tags.get?, f.upper, f.chain.getLast?.bind tags.get?⟩) flows ∧
      (∀ f ∈ flows, ShortestChain cs (.literal f.lower) (.literal f.upper) f.chain ∧
        ¬ ∃ σ, Solution domain.lattice (.ofList f.chain) σ) ∧
      flows.Pairwise LiteralFlow.Precedes ∧
      ((closure.conflicts tags).map (fun c => (c.lower, c.upper))).Nodup ∧
      (∀ lower upper, (∃ c ∈ closure.conflicts tags, c.lower = lower ∧ c.upper = upper) ↔
        lower ≠ upper ∧ Flows cs (.literal lower) (.literal upper) ∧
          domain.typeLe? lower upper = .ok false) ∧
      (¬ Mentioned cs (.literal .dyn) →
        (closure.conflicts tags = [] ↔ ∃ σ, Solution domain.lattice cs σ)) := by
  have lawful := built.lawful
  have told := Closure.conflicts_ofSet domain.lattice cs tags
  have ordered : (Closure.forbiddenFlows domain.lattice (FlowGraph.ofSet cs)).Pairwise
      LiteralFlow.Precedes := (FlowGraph.literalFlows_pairwise cs).filter _
  refine ⟨_, _, Checked.closure_eq built based, told, ?_, ordered, ?_, ?_, ?_⟩
  · intro f member
    obtain ⟨apart, _, forbidden⟩ := Closure.mem_forbiddenFlows.mp ⟨f, member, rfl, rfl⟩
    have shortest := FlowGraph.shortestChain_of_mem_literalFlows (List.mem_filter.mp member).1
    exact ⟨shortest, shortest.leads.unsolvable lawful based shortest.part apart forbidden⟩
  · rw [told, List.map_map]
    exact List.pairwise_map.mpr (ordered.imp LiteralFlow.Precedes.apart)
  · intro lower upper
    rw [Closure.exists_conflict_iff]
    refine and_congr_right fun apart => and_congr_right fun flows => ?_
    rw [Checked.typeLe?_of_flows built based apart flows, Except.ok.injEq]
  · intro unmarked
    rw [told, List.map_eq_nil_iff, Closure.forbiddenFlows_eq_nil_iff_isSat unmarked]
    exact Closure.isSat_iff lawful based

/-- The left level flows around a circle of two variables into the right one, with a shortcut. -/
def shortcutSample : ConstraintSet :=
  let x (index : Int) : Operand := .var ⟨1, .fresh, index⟩
  let level (name : String) : Operand := .literal (.level (.name name))
  .ofList [.make (level "left") .flow (x 0), .make (x 0) .flow (x 1), .make (x 1) .flow (x 0),
    .make (level "left") .flow (x 1), .make (x 1) .flow (level "right")]

/-- The one conflict is told by the shortcut and what follows it. -/
theorem conflict_diagnosis_exact_shortcut :
    let x (index : Int) : Operand := .var ⟨1, .fresh, index⟩
    let level (name : String) : Literal := .level (.name name)
    let tags := (TagMap.empty.add (.make (.literal (level "left")) .flow (x 1)) (.param 0)).add
      (.make (x 1) .flow (.literal (level "right"))) .returned
    Domain.diamond.Built ∧ shortcutSample.Over Domain.diamond.lattice ∧
      ¬ Mentioned shortcutSample (.literal .dyn) ∧
      (∃ closure, Checked.closure .diamond shortcutSample = .ok closure ∧
        closure.conflicts tags =
          [⟨level "left", some (.param 0), level "right", some .returned⟩]) ∧
      ¬ ∃ σ, Solution Domain.diamond.lattice shortcutSample σ := by
  intro x level tags
  have built := Domain.diamond_built
  have based : shortcutSample.Over Domain.diamond.lattice := by decide +kernel
  have unmarked : ¬ Mentioned shortcutSample (.literal .dyn) := by
    rw [← FlowGraph.mem_nodes]
    decide +kernel
  obtain ⟨closure, flows, closed, _, _, _, _, _, free⟩ :=
    conflict_diagnosis_exact built based tags
  obtain rfl := Except.ok.inj ((Checked.closure_eq built based).symm.trans closed)
  have told : (Closure.ofSet Domain.diamond.lattice shortcutSample).conflicts tags =
      [⟨level "left", some (.param 0), level "right", some .returned⟩] := by rfl
  refine ⟨built, based, unmarked, ⟨_, closed, told⟩, ?_⟩
  intro solved
  have empty := (free unmarked).mpr solved
  rw [told] at empty
  exact List.cons_ne_nil _ _ empty

end FlowTyping
