import FlowTyping.ConstraintSet.Checked
import FlowTyping.Proofs.BuiltDomain
import FlowTyping.Proofs.Satisfiability

namespace FlowTyping.Checked

variable {domain : Domain} {cs : ConstraintSet} {a b n : Operand}

theorem select_eq {α : Type} {test : α → Except Fault Bool} {keep : α → Bool} {l : List α}
    (agrees : ∀ x ∈ l, test x = .ok (keep x)) : select test l = .ok (l.filter keep) := by
  induction l with
  | nil => rfl
  | cons first rest ih =>
    have tail := ih fun x member => agrees x (List.mem_cons_of_mem first member)
    rw [select, agrees first (by simp), tail, List.filter_cons]
    rfl

/-- Literals between which a set derives a flow can be compared. -/
theorem typeLe?_of_flows (built : domain.Built) (based : cs.Over domain.lattice)
    {lower upper : Literal} (apart : lower ≠ upper)
    (flows : Flows cs (.literal lower) (.literal upper)) :
    domain.typeLe? lower upper = .ok (lower.le domain.lattice upper) := by
  have known := ConstraintSet.over_iff.mp based
  have ends := mentioned_of_chain (by simpa using apart) flows
  exact built.typeLe?_eq (known _ ends.1).literal (known _ ends.2).literal

theorem closure_eq (built : domain.Built) (based : cs.Over domain.lattice) :
    closure domain cs = .ok (Closure.ofSet domain.lattice cs) := by
  have selected : select (fun f => do return !(← domain.typeLe? f.lower f.upper))
      (FlowGraph.ofSet cs).literalFlows =
      .ok (Closure.forbiddenFlows domain.lattice (FlowGraph.ofSet cs)) := by
    apply select_eq
    intro f member
    obtain ⟨apart, flows⟩ := FlowGraph.mem_literalFlows.mp ⟨f, member, rfl, rfl⟩
    rw [typeLe?_of_flows built based apart flows]
    rfl
  rw [closure, selected]
  rfl

theorem entailsFlow_eq (built : domain.Built) (based : cs.Over domain.lattice)
    (knownA : a.Known domain.lattice) (knownB : b.Known domain.lattice) :
    entailsFlow domain (Closure.ofSet domain.lattice cs) a b =
      .ok ((Closure.ofSet domain.lattice cs).entailsFlow a b) := by
  have highest := built.meetLevels?_eq (Closure.upperLevels_known based knownA)
  have lowest := built.joinLevels?_eq (Closure.lowerLevels_known based knownB)
  have compared : domain.le? (.level (domain.lattice.meetAll _))
      (.level (domain.lattice.joinAll _)) =
      .ok ((Closure.ofSet domain.lattice cs).lattice.le
        ((Closure.ofSet domain.lattice cs).highestLevel a)
        ((Closure.ofSet domain.lattice cs).lowestLevel b)) :=
    built.le?_eq (Closure.highestLevel_mem built.lawful based knownA)
      (Closure.lowestLevel_mem built.lawful based knownB)
  unfold entailsFlow Closure.entailsFlow
  split
  · exact built.typeLe?_eq knownA.literal knownB.literal
  · rw [highest, lowest]
    simp only [bind, Except.bind, compared]
    cases (Closure.ofSet domain.lattice cs).graph.reaches a b <;>
      cases (Closure.ofSet domain.lattice cs).breaksByKind a b <;>
      cases (Closure.ofSet domain.lattice cs).admits [] [a, b] [] <;> rfl

theorem entailedBy_eq (built : domain.Built) (based : cs.Over domain.lattice) {k : Flow}
    (knownLhs : k.lhs.Known domain.lattice) (knownRhs : k.rhs.Known domain.lattice) :
    entailedBy domain (Closure.ofSet domain.lattice cs) k =
      .ok ((Closure.ofSet domain.lattice cs).entails k) := by
  unfold entailedBy Closure.entails
  split
  · rename_i free
    simp [free]
  · rename_i bound
    simp only [Bool.not_eq_true] at bound
    rw [bound, Bool.false_or]
    cases k.kind with
    | flow => exact entailsFlow_eq built based knownLhs knownRhs
    | compatible => rfl
    | implies => rfl

theorem entails_eq (built : domain.Built) (based : cs.Over domain.lattice) {k : Flow}
    (knownLhs : k.lhs.Known domain.lattice) (knownRhs : k.rhs.Known domain.lattice) :
    entails domain cs k = .ok (cs.entails domain.lattice k) := by
  unfold entails ConstraintSet.entails
  split
  · rename_i free
    simp [Closure.entails, free, pure, Except.pure]
  · rw [closure_eq built based]
    exact entailedBy_eq built based knownLhs knownRhs

theorem all_eq {α : Type} {test : α → Except Fault Bool} {keep : α → Bool} {l : List α}
    (agrees : ∀ x ∈ l, test x = .ok (keep x)) : all test l = .ok (l.all keep) := by
  induction l with
  | nil => rfl
  | cons first rest ih =>
    have tail := ih fun x member => agrees x (List.mem_cons_of_mem first member)
    rw [all, agrees first (by simp), tail, List.all_cons]
    cases keep first <;> rfl

theorem both_eq (first second : Bool) : both (.ok first) (.ok second) = .ok (first && second) := by
  cases first <;> rfl

theorem dropDerivable_eq (built : domain.Built) {kept : ConstraintSet}
    (based : kept.Over domain.lattice) {asked : List Flow}
    (known : ∀ c ∈ asked, c.lhs.Known domain.lattice ∧ c.rhs.Known domain.lattice) :
    dropDerivable domain asked kept = .ok (kept.dropDerivable domain.lattice asked) := by
  induction asked generalizing kept with
  | nil => rfl
  | cons first rest ih =>
    have later := fun c member => known c (List.mem_cons_of_mem first member)
    obtain ⟨knownLhs, knownRhs⟩ := known first (by simp)
    have erased : (kept.erase first).Over domain.lattice :=
      based.subset (ConstraintSet.erase_subset first)
    rw [dropDerivable, entails_eq built erased knownLhs knownRhs]
    show dropDerivable domain rest _ = .ok (ConstraintSet.dropDerivable domain.lattice rest _)
    split
    · exact ih erased later
    · exact ih based later

theorem minimize_eq (built : domain.Built) (based : cs.Over domain.lattice) :
    minimize domain cs = .ok (cs.minimize domain.lattice) := by
  have part : ∀ c ∈ cs.filter (fun c => !c.isTrivial), c ∈ cs := ConstraintSet.filter_subset _
  exact dropDerivable_eq built (based.subset part) fun c member => based.known (part c member)

theorem leastLevel_eq (built : domain.Built) (based : cs.Over domain.lattice)
    (known : n.Known domain.lattice) :
    leastLevel domain (FlowGraph.ofSet cs) n =
      .ok ((Closure.ofSet domain.lattice cs).leastLevel? n) := by
  have members := Closure.lowerLiterals_known based known
  rw [Closure.leastLevel?_ofSet, leastLevel]
  split
  · rfl
  · rw [built.joinLevels?_eq members]
    rfl

theorem leastLevels_eq (built : domain.Built) (based : cs.Over domain.lattice)
    (vars : List TypeVar) :
    leastLevels domain (FlowGraph.ofSet cs) vars =
      .ok (vars.map (fun v => (v,
        ((Closure.ofSet domain.lattice cs).leastLevel? (.var v)).getD domain.lattice.bottom))) := by
  induction vars with
  | nil => rfl
  | cons v rest ih =>
    have known : (Operand.var v).Known domain.lattice := trivial
    rw [leastLevels, leastLevel_eq built based known, ih]
    rfl

theorem leastAssignment_eq (built : domain.Built) (based : cs.Over domain.lattice)
    (fixed : List TypeVar) :
    leastAssignment domain cs fixed = .ok (cs.leastAssignment? domain.lattice fixed) := by
  rw [leastAssignment, closure_eq built based]
  unfold ConstraintSet.leastAssignment?
  simp only [bind, Except.bind, pure, Except.pure]
  split
  · rw [Closure.ofSet_graph, leastLevels_eq built based]
  · rfl

end FlowTyping.Checked
