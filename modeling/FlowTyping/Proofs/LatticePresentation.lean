import FlowTyping.Diagnosis
import FlowTyping.Proofs.AcceptedDiagrams
import FlowTyping.Proofs.Implication
import FlowTyping.Proofs.Projection

namespace FlowTyping

namespace LevelLattice

variable {α : Type} {K L : LevelLattice α} {levels : List α}

/-- Two lattices with the same elements and the same order. -/
structure Alike (K L : LevelLattice α) : Prop where
  left : K.Lawful
  right : L.Lawful
  members : ∀ l, l ∈ K.elements ↔ l ∈ L.elements
  le : ∀ a ∈ K.elements, ∀ b ∈ K.elements, K.le a b = L.le a b

namespace Alike

theorem dual (alike : K.Alike L) : K.dual.Alike L.dual where
  left := alike.left.dual
  right := alike.right.dual
  members := alike.members
  le a inA b inB := alike.le b inB a inA

/-- A least upper bound depends on the order alone. -/
theorem joinAll_eq (alike : K.Alike L) (known : ∀ l ∈ levels, l ∈ K.elements) :
    K.joinAll levels = L.joinAll levels := by
  have known' : ∀ l ∈ levels, l ∈ L.elements := fun l member =>
    (alike.members l).mp (known l member)
  have joined := alike.left.joinAll_mem known
  have joined' := alike.right.joinAll_mem known'
  have inL := (alike.members _).mp joined
  have inK := (alike.members _).mpr joined'
  apply alike.left.antisymm _ joined _ inK
  · apply alike.left.joinAll_le known inK
    intro l member
    rw [alike.le l (known l member) _ inK]
    exact alike.right.le_joinAll known' member
  · rw [alike.le _ inK _ joined]
    apply alike.right.joinAll_le known' inL
    intro l member
    rw [← alike.le l (known l member) _ joined]
    exact alike.left.le_joinAll known member

theorem meetAll_eq (alike : K.Alike L) (known : ∀ l ∈ levels, l ∈ K.elements) :
    K.meetAll levels = L.meetAll levels :=
  alike.dual.joinAll_eq known

theorem bottom_eq (alike : K.Alike L) : K.bottom = L.bottom := by
  have known : ∀ l ∈ ([] : List α), l ∈ K.elements := fun _ none => absurd none List.not_mem_nil
  exact alike.joinAll_eq known

end Alike

end LevelLattice

variable {K L : LevelLattice Level} {cs other : ConstraintSet} {a b n : Operand} {c d : Flow}
variable {onto : VarSet}

theorem Operand.known_alike (alike : K.Alike L) : n.Known K ↔ n.Known L := by
  rcases n with (_ | l) | v
  · exact Iff.rfl
  · exact alike.members l
  · exact Iff.rfl

theorem ConstraintSet.over_alike (alike : K.Alike L) : cs.Over K ↔ cs.Over L :=
  forall₂_congr fun l _ => alike.members l

theorem Literal.le_alike (alike : K.Alike L) {lower upper : Literal}
    (knownLower : (Operand.literal lower).Known K) (knownUpper : (Operand.literal upper).Known K) :
    lower.le K upper = lower.le L upper := by
  cases lower with
  | dyn => cases upper <;> rfl
  | level l =>
    cases upper with
    | dyn => rfl
    | level u => exact alike.le l knownLower u knownUpper

namespace Closure

variable (alike : K.Alike L) (based : cs.Over K)
include alike based

/-- The closures over the lattices differ in nothing but the lattice. -/
theorem ofSet_alike : ofSet L cs = { ofSet K cs with lattice := L } := by
  have forbidden : forbiddenFlows L (FlowGraph.ofSet cs) =
      forbiddenFlows K (FlowGraph.ofSet cs) := by
    apply List.filter_congr
    intro f member
    obtain ⟨apart, flows⟩ := FlowGraph.mem_literalFlows.mp ⟨f, member, rfl, rfl⟩
    have known := ConstraintSet.over_iff.mp based
    have ends := mentioned_of_chain (by simpa using apart) flows
    rw [Literal.le_alike alike (known _ ends.1) (known _ ends.2)]
  show ofGraph L (FlowGraph.ofSet cs) _ = _
  rw [forbidden]
  rfl

theorem isSat_alike : (ofSet K cs).isSat = (ofSet L cs).isSat := by
  rw [ofSet_alike alike based]
  rfl

theorem conflicts_alike (tags : TagMap) :
    (ofSet K cs).conflicts tags = (ofSet L cs).conflicts tags := by
  rw [ofSet_alike alike based]
  rfl

theorem entailsFlow_alike (knownA : a.Known K) (knownB : b.Known K) :
    (ofSet K cs).entailsFlow a b = (ofSet L cs).entailsFlow a b := by
  have lattice := ofSet_alike alike based
  have highest : (ofSet L cs).highestLevel a = (ofSet K cs).highestLevel a := by
    rw [lattice]
    exact (alike.meetAll_eq (upperLevels_known based knownA)).symm
  have lowest : (ofSet L cs).lowestLevel b = (ofSet K cs).lowestLevel b := by
    rw [lattice]
    exact (alike.joinAll_eq (lowerLevels_known based knownB)).symm
  have ordered := alike.le _ (highestLevel_mem alike.left based knownA) _
    (lowestLevel_mem alike.left based knownB)
  unfold entailsFlow
  split
  · exact Literal.le_alike alike knownA knownB
  · rw [highest, lowest, ofSet_lattice, ofSet_lattice, ordered, lattice]
    rfl

theorem entails_alike (knownLhs : c.lhs.Known K) (knownRhs : c.rhs.Known K) :
    (ofSet K cs).entails c = (ofSet L cs).entails c := by
  have flows := entailsFlow_alike alike based knownLhs knownRhs
  unfold entails
  rw [isSat_alike alike based, flows, ofSet_alike alike based]
  rfl

theorem leastLevel?_alike (known : n.Known K) :
    (ofSet K cs).leastLevel? n = (ofSet L cs).leastLevel? n := by
  rw [leastLevel?_ofSet, leastLevel?_ofSet, alike.joinAll_eq (lowerLiterals_known based known)]

end Closure

namespace ConstraintSet

theorem tighter_alike (alike : K.Alike L) (knownC : c.lhs.Known K ∧ c.rhs.Known K)
    (knownD : d.lhs.Known K ∧ d.rhs.Known K) : tighter K c d = tighter L c d := by
  have below : ∀ x y : Operand, x.Known K → y.Known K → (x.Below K y ↔ x.Below L y) := by
    intro x y knownX knownY
    cases x with
    | literal l =>
      cases y with
      | literal m => simp only [Operand.Below, Literal.le_alike alike knownX knownY]
      | var w => exact Iff.rfl
    | var v => cases y <;> exact Iff.rfl
  rw [Bool.eq_iff_iff, tighter_iff, tighter_iff, below _ _ knownC.1 knownD.1,
    below _ _ knownD.2 knownC.2]

variable (alike : K.Alike L) (based : cs.Over K)
include alike based

theorem entails_alike (knownLhs : c.lhs.Known K) (knownRhs : c.rhs.Known K) :
    cs.entails K c = cs.entails L c :=
  Closure.entails_alike alike based knownLhs knownRhs

theorem dropDerivable_alike {asked : List Flow}
    (known : ∀ c ∈ asked, c.lhs.Known K ∧ c.rhs.Known K) :
    cs.dropDerivable K asked = cs.dropDerivable L asked := by
  induction asked generalizing cs with
  | nil => rfl
  | cons first rest ih =>
    have later := fun c member => known c (List.mem_cons_of_mem first member)
    obtain ⟨knownLhs, knownRhs⟩ := known first (by simp)
    have erased : (cs.erase first).Over K := based.subset (erase_subset first)
    rw [dropDerivable, dropDerivable, entails_alike alike erased knownLhs knownRhs]
    split
    · exact ih erased later
    · exact ih based later

theorem minimize_alike : cs.minimize K = cs.minimize L := by
  have part : ∀ c ∈ cs.filter (fun c => !c.isTrivial), c ∈ cs := filter_subset _
  exact dropDerivable_alike alike (based.subset part) fun c member => based.known (part c member)

theorem tightest_alike : cs.tightest K = cs.tightest L := by
  apply ext_mem
  intro c
  rw [mem_tightest, mem_tightest]
  apply and_congr_right
  intro member
  apply imp_congr_right
  intro _
  apply forall₂_congr
  intro d there
  rw [tighter_alike alike (based.known member) (based.known there)]

theorem condense_alike : cs.condense K = cs.condense L := by
  have backbones : cs.backbone K = cs.backbone L := by
    rw [backbone, backbone, tightest_alike alike based]
  have cores : cs.core K = cs.core L := by
    apply ext_mem
    intro c
    rw [core, core, mem_filter, mem_filter, tightest_alike alike based, ← backbones]
    apply and_congr_right
    intro tight
    rw [← tightest_alike alike based] at tight
    obtain ⟨left, right⟩ := based.known (tightest_subset c tight)
    rw [entails_alike alike (backbone_over based) left right]
  rw [condense_eq, condense_eq, ← cores]
  exact minimize_alike alike (based.subset core_subset)

theorem entailedAmong_alike : cs.entailedAmong K onto = cs.entailedAmong L onto := by
  have retained : ∀ n, n ∈ cs.projectionOperands K onto ↔ n ∈ cs.projectionOperands L onto := by
    intro n
    rw [mem_projectionOperands, mem_projectionOperands]
    cases n with
    | literal l => exact Operand.known_alike alike
    | var v => exact Iff.rfl
  apply ext_mem
  intro c
  simp only [entailedAmong, mem_ofList, List.mem_filter, mem_candidates_iff_sides, ← retained]
  apply and_congr_right
  intro sides
  have left := (mem_projectionOperands.mp sides.1).known
  have right := (mem_projectionOperands.mp sides.2.1).known
  rw [Closure.entails_alike alike based left right]

theorem project_alike : cs.project K onto = cs.project L onto := by
  have verdict : cs.isSat K = cs.isSat L := Closure.isSat_alike alike based
  by_cases sat : cs.isSat K = true
  · rw [project_of_sat sat, project_of_sat (verdict ▸ sat), ← entailedAmong_alike alike based]
    exact condense_alike alike (entailedAmong_over alike.left based)
  · rw [project_of_unsat sat, project_of_unsat (verdict ▸ sat), contradiction, contradiction,
      alike.bottom_eq]

theorem implies_alike (overOther : other.Over K) : cs.implies K other = cs.implies L other := by
  have minimal := minimize_alike alike overOther
  have asked : (other.minimize K).toList.all (Closure.ofSet K cs).entails =
      (other.minimize K).toList.all (Closure.ofSet L cs).entails := by
    rw [Bool.eq_iff_iff, List.all_eq_true, List.all_eq_true]
    refine forall₂_congr fun c member => ?_
    obtain ⟨left, right⟩ := overOther.known (minimize_subset c member)
    rw [Closure.entails_alike alike based left right]
  rw [implies, implies, Closure.isSat_alike alike based, asked, minimal]

theorem leastAssignment?_alike (fixed : List TypeVar) :
    cs.leastAssignment? K fixed = cs.leastAssignment? L fixed := by
  have levels : ∀ v : TypeVar, (Closure.ofSet K cs).leastLevel? (.var v) =
      (Closure.ofSet L cs).leastLevel? (.var v) := fun v =>
    Closure.leastLevel?_alike alike based trivial
  simp only [leastAssignment?, Closure.isSat_alike alike based, levels, alike.bottom_eq]

end ConstraintSet

/-- Over two domains a set gives the same answers, and gives them without being refused. -/
structure SameAnswers (domain other : Domain) (cs : ConstraintSet) : Prop where
  closure : ∃ c c', Checked.closure domain cs = .ok c ∧ Checked.closure other cs = .ok c' ∧
    c.isSat = c'.isSat ∧ c.reason? = c'.reason? ∧ ∀ tags, c.conflicts tags = c'.conflicts tags
  entailed : ∀ c : Flow, c.lhs.Known domain.lattice → c.rhs.Known domain.lattice →
    ∃ r, Checked.entails domain cs c = .ok r ∧ Checked.entails other cs c = .ok r
  minimized : ∃ r, Checked.minimize domain cs = .ok r ∧ Checked.minimize other cs = .ok r
  projected : ∀ onto, ∃ r, Checked.project domain cs onto = .ok r ∧
    Checked.project other cs onto = .ok r
  implied : ∀ ds : ConstraintSet, ds.Over domain.lattice →
    ∃ r, Checked.implies domain cs ds = .ok r ∧ Checked.implies other cs ds = .ok r
  assigned : ∀ fixed, ∃ r, Checked.leastAssignment domain cs fixed = .ok r ∧
    Checked.leastAssignment other cs fixed = .ok r

theorem LevelLattice.Alike.sameAnswers {domain other : Domain} (built : domain.Built)
    (built' : other.Built) (alike : domain.lattice.Alike other.lattice)
    (based : cs.Over domain.lattice) : SameAnswers domain other cs := by
  have based' : cs.Over other.lattice := (ConstraintSet.over_alike alike).mp based
  constructor
  case closure =>
    refine ⟨_, _, Checked.closure_eq built based, Checked.closure_eq built' based',
      Closure.isSat_alike alike based, ?_, Closure.conflicts_alike alike based⟩
    rw [Closure.ofSet_alike alike based]
  case entailed =>
    intro c left right
    have left' := (Operand.known_alike alike).mp left
    have right' := (Operand.known_alike alike).mp right
    refine ⟨_, Checked.entails_eq built based left right, ?_⟩
    rw [Checked.entails_eq built' based' left' right',
      ConstraintSet.entails_alike alike based left right]
  case minimized =>
    refine ⟨_, Checked.minimize_eq built based, ?_⟩
    rw [Checked.minimize_eq built' based', ConstraintSet.minimize_alike alike based]
  case projected =>
    intro onto
    refine ⟨_, Checked.project_eq built based onto, ?_⟩
    rw [Checked.project_eq built' based', ConstraintSet.project_alike alike based]
  case implied =>
    intro ds known
    have known' := (ConstraintSet.over_alike alike).mp known
    refine ⟨_, Checked.implies_eq built based known, ?_⟩
    rw [Checked.implies_eq built' based' known', ConstraintSet.implies_alike alike based known]
  case assigned =>
    intro fixed
    refine ⟨_, Checked.leastAssignment_eq built based fixed, ?_⟩
    rw [Checked.leastAssignment_eq built' based',
      ConstraintSet.leastAssignment?_alike alike based]

namespace Hasse

variable {elements elements' : List String} {covers covers' : List (String × String)}
variable {h k : Hasse}

/-- The same names, and the same order among them. -/
def SameDiagram (elements elements' : List String) (covers covers' : List (String × String)) :
    Prop :=
  (∀ n, n ∈ elements ↔ n ∈ elements') ∧
    ∀ a ∈ elements, ∀ b ∈ elements, (Under covers a b ↔ Under covers' a b)

theorem same_iff (accepted : Accepted elements covers h)
    (accepted' : Accepted elements' covers' k) :
    h.same k = true ↔ SameDiagram elements elements' covers covers' := by
  have names : (h.names.all k.knows && k.names.all h.knows) = true ↔
      ∀ n, n ∈ elements ↔ n ∈ elements' := by
    simp only [knows, Bool.and_eq_true, List.all_eq_true, List.contains_iff_mem,
      accepted.mem_names, accepted'.mem_names]
    exact forall_and.symm.trans (forall_congr' fun n => iff_def.symm)
  rw [same, Bool.and_eq_true, names, SameDiagram]
  apply and_congr_right
  intro shared
  simp only [List.all_eq_true, accepted.mem_names, beq_iff_eq]
  refine forall₂_congr fun a inA => forall₂_congr fun b _ => ?_
  rw [Bool.eq_iff_iff, accepted.under_iff inA, accepted'.under_iff ((shared a).mp inA)]

theorem alike_of_same (accepted : Accepted elements covers h)
    (accepted' : Accepted elements' covers' k)
    (same : SameDiagram elements elements' covers covers') : h.lattice.Alike k.lattice := by
  obtain ⟨shared, order⟩ := same
  refine ⟨accepted.lawful, accepted'.lawful, ?_, ?_⟩
  · intro l
    simp only [accepted.mem_elements, accepted'.mem_elements, accepted.mem_names,
      accepted'.mem_names, shared]
  · intro l knownL m knownM
    obtain ⟨a, listedA, shapeA⟩ := accepted.mem_elements.mp knownL
    obtain ⟨b, listedB, shapeB⟩ := accepted.mem_elements.mp knownM
    subst shapeA shapeB
    have inA := accepted.mem_names.mp listedA
    show below h.above a b = below k.above a b
    rw [Bool.eq_iff_iff, accepted.under_iff inA, accepted'.under_iff ((shared a).mp inA)]
    exact order a inA b (accepted.mem_names.mp listedB)

/-- How a diagram is presented makes no difference: two diagrams count as the same domain exactly
if they have the same names and the same order, and then every set over them gives the same
answers, in whatever order the names were listed, and whatever was listed twice or covered
redundantly. -/
theorem presentation_immaterial (built : ofCovers elements covers = .ok h)
    (built' : ofCovers elements' covers' = .ok k) :
    ((Domain.hasse h).same (.hasse k) = true ↔
        SameDiagram elements elements' covers covers') ∧
      ((Domain.hasse h).same (.hasse k) = true →
        ∀ cs : ConstraintSet, cs.Over h.lattice → SameAnswers (.hasse h) (.hasse k) cs) := by
  have accepted := accepted_of_ofCovers built
  have accepted' := accepted_of_ofCovers built'
  have decided : (Domain.hasse h).same (.hasse k) = true ↔
      SameDiagram elements elements' covers covers' := same_iff accepted accepted'
  refine ⟨decided, ?_⟩
  intro same cs based
  have alike := alike_of_same accepted accepted' (decided.mp same)
  exact alike.sameAnswers (.hasse built) (.hasse built') based

theorem presentation_immaterial_shuffled :
    let elements := ["bottom", "left", "right", "top"]
    let covers := [("bottom", "left"), ("bottom", "right"), ("left", "top"), ("right", "top")]
    let elements' := ["top", "left", "bottom", "right", "left"]
    let covers' := ("left", "left") :: ("bottom", "top") :: covers.reverse
    ∃ h k, ofCovers elements covers = .ok h ∧ ofCovers elements' covers' = .ok k ∧
      h.elements ≠ k.elements ∧ SameDiagram elements elements' covers covers' ∧
      SameAnswers (.hasse h) (.hasse k) (inflowSample ["left", "right"]) := by
  intro elements covers elements' covers'
  have computed : (ofCovers elements covers).toOption.any (fun h =>
      (ofCovers elements' covers').toOption.any (fun k =>
        (Domain.hasse h).same (.hasse k) && decide (h.elements ≠ k.elements) &&
          decide ((inflowSample ["left", "right"]).Over h.lattice))) = true := by
    decide +kernel
  cases built : ofCovers elements covers with
  | error problem =>
    rw [built] at computed
    cases computed
  | ok h =>
    cases built' : ofCovers elements' covers' with
    | error problem =>
      rw [built, built'] at computed
      cases computed
    | ok k =>
      rw [built, built'] at computed
      have parts : (Domain.hasse h).same (.hasse k) = true ∧ h.elements ≠ k.elements ∧
          (inflowSample ["left", "right"]).Over h.lattice := by
        simpa [and_assoc, Except.toOption] using computed
      obtain ⟨alike, reordered, based⟩ := parts
      obtain ⟨same, answers⟩ := presentation_immaterial built built'
      exact ⟨h, k, rfl, rfl, reordered, same.mp alike, answers alike _ based⟩

end Hasse

end FlowTyping
