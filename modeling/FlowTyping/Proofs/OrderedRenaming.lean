import FlowTyping.Proofs.Consequences
import FlowTyping.Proofs.Minimization
import FlowTyping.Proofs.Renaming

/-!
Projection under other names. A renaming that keeps the order of the variables in sight keeps
the order of the constraints between them, the sides on which compatibilities stand, and what
is entailed. Since nothing else decides which constraints are dropped and which are kept,
projecting a renamed set is renaming its projection.
-/

namespace FlowTyping

variable {K : LevelLattice Level} {cs kept : ConstraintSet} {σ : Valuation}
variable {f : TypeVar → TypeVar} {vars onto target : VarSet} {a b n : Operand} {c d : Flow}

/-- A renaming keeps the order of some variables, and so keeps them apart. -/
def KeepsOrder (f : TypeVar → TypeVar) (vars : VarSet) : Prop :=
  ∀ v ∈ vars, ∀ w ∈ vars, compare (f v) (f w) = compare v w

def Flow.Within (K : LevelLattice Level) (vars : VarSet) (c : Flow) : Prop :=
  c.lhs.Within K vars ∧ c.rhs.Within K vars

def ConstraintSet.Within (K : LevelLattice Level) (vars : VarSet) (cs : ConstraintSet) : Prop :=
  ∀ c ∈ cs, Flow.Within K vars c

theorem Flow.Within.vars_subset (within : Flow.Within K vars c) : ∀ v ∈ c.vars, v ∈ vars := by
  intro v listed
  obtain ⟨n, side, shaped⟩ := List.mem_filterMap.mp listed
  rw [Operand.var?_eq_some] at shaped
  subst shaped
  have inside : ∀ n ∈ [c.lhs, c.rhs], n.Within K vars := by
    simpa only [List.forall_mem_cons, List.not_mem_nil, false_implies, implies_true, and_true]
      using And.intro within.1 within.2
  exact inside _ side

namespace ConstraintSet.Within

theorem based (within : cs.Within K vars) : cs.Over K := by
  apply over_iff_sides.mpr
  intro c member
  exact ⟨(within c member).1.known, (within c member).2.known⟩

theorem subset {part : ConstraintSet} (within : cs.Within K vars)
    (included : ∀ c ∈ part, c ∈ cs) : part.Within K vars :=
  fun c member => within c (included c member)

theorem vars_subset (within : cs.Within K vars) : ∀ v ∈ cs.vars, v ∈ vars := by
  intro v listed
  obtain ⟨c, member, there⟩ := List.mem_flatMap.mp (SortedSet.mem_ofList.mp listed)
  exact (within c member).vars_subset v there

theorem retained (within : cs.Within K vars) (kept : Retained K cs onto n) : n.Within K vars := by
  cases n with
  | literal l => exact kept
  | var v => exact within.vars_subset v kept.1

end ConstraintSet.Within

theorem Operand.Within.known_rename (within : n.Within K vars) : (n.rename f).Known K := by
  cases n with
  | literal l => exact within
  | var v => trivial

namespace KeepsOrder

theorem injective (keeps : KeepsOrder f vars) :
    ∀ v ∈ vars, ∀ w ∈ vars, f v = f w → v = w := by
  intro v memberV w memberW same
  apply Std.LawfulEqOrd.eq_of_compare
  rw [← keeps v memberV w memberW, same]
  exact Std.ReflCmp.compare_self

theorem compare_operand (keeps : KeepsOrder f vars) (left : a.Within K vars)
    (right : b.Within K vars) : compare (a.rename f) (b.rename f) = compare a b := by
  show Operand.order _ _ = Operand.order _ _
  cases a with
  | literal l =>
    cases b with
    | literal m => rfl
    | var w => rfl
  | var v =>
    cases b with
    | literal m => rfl
    | var w =>
      have same := keeps v left w right
      simp only [Operand.order, compareLex, compareOn, Operand.rename, Operand.rank,
        Operand.literalPart, Operand.varPart, same]

theorem operand_inj (keeps : KeepsOrder f vars) (left : a.Within K vars)
    (right : b.Within K vars) : a.rename f = b.rename f ↔ a = b := by
  constructor
  · intro same
    apply Std.LawfulEqOrd.eq_of_compare
    rw [← keeps.compare_operand left right, same]
    exact Std.ReflCmp.compare_self
  · exact congrArg (Operand.rename f)

theorem rename_sides (keeps : KeepsOrder f vars) (within : Flow.Within K vars c) :
    (c.rename f).lhs = c.lhs.rename f ∧ (c.rename f).rhs = c.rhs.rename f := by
  have normal : ¬ (c.kind = .compatible ∧ compare (c.rhs.rename f) (c.lhs.rename f) = .lt) := by
    rw [keeps.compare_operand within.2 within.1]
    exact fun swapped => c.normal swapped.1 swapped.2
  rw [Flow.rename, Constraint.make, dif_neg normal]
  exact ⟨rfl, rfl⟩

theorem order_rename (keeps : KeepsOrder f vars) (left : Flow.Within K vars c)
    (right : Flow.Within K vars d) :
    Constraint.order (c.rename f) (d.rename f) = Constraint.order c d := by
  obtain ⟨lhsC, rhsC⟩ := keeps.rename_sides left
  obtain ⟨lhsD, rhsD⟩ := keeps.rename_sides right
  have kindC : (c.rename f).kind = c.kind := Constraint.make_kind _ _ _
  have kindD : (d.rename f).kind = d.kind := Constraint.make_kind _ _ _
  simp only [Constraint.order, compareLex, compareOn, Constraint.kindRank, kindC, kindD, lhsC, lhsD,
    rhsC, rhsD, keeps.compare_operand left.1 right.1, keeps.compare_operand left.2 right.2]

theorem flow_inj (keeps : KeepsOrder f vars) (left : Flow.Within K vars c)
    (right : Flow.Within K vars d) : c.rename f = d.rename f ↔ c = d := by
  constructor
  · intro same
    have level : Constraint.order c d = .eq := by
      rw [← keeps.order_rename left right, same]
      exact Std.ReflCmp.compare_self
    exact Std.LawfulEqCmp.eq_of_compare level
  · exact congrArg (Flow.rename f)

end KeepsOrder

@[simp] theorem Flow.rename_kind : (c.rename f).kind = c.kind := Constraint.make_kind _ _ _

@[simp] theorem Operand.isLiteral_rename : (n.rename f).isLiteral = n.isLiteral := by
  cases n <;> rfl

namespace ConstraintSet

/-- Renamed constraints are selected by a test that does not see the names. -/
theorem filter_rename {keep keep' : Flow → Bool}
    (agree : ∀ c ∈ cs, keep' (c.rename f) = keep c) :
    (cs.rename f).filter keep' = (cs.filter keep).rename f := by
  apply ext_mem
  intro c
  simp only [mem_filter, mem_rename]
  constructor
  · intro selected
    obtain ⟨⟨d, member, same⟩, passes⟩ := selected
    subst same
    exact ⟨d, ⟨member, (agree d member).symm.trans passes⟩, rfl⟩
  · intro renamed
    obtain ⟨d, ⟨member, passes⟩, same⟩ := renamed
    subst same
    exact ⟨⟨d, member, rfl⟩, (agree d member).trans passes⟩

section Ordered

variable (keeps : KeepsOrder f vars) (within : cs.Within K vars)
include keeps within

theorem toList_rename : (cs.rename f).toList = cs.toList.map (Flow.rename f) := by
  apply SortedSet.toList_ofList
  apply List.pairwise_map.mpr
  apply cs.members.increasing.imp_of_mem
  intro c d memberC memberD less
  rw [keeps.order_rename (within c memberC) (within d memberD)]
  exact less

theorem erase_rename (inside : Flow.Within K vars c) :
    (cs.rename f).erase (c.rename f) = (cs.erase c).rename f := by
  apply filter_rename
  intro d member
  simp only [ne_eq, keeps.flow_inj (within d member) inside]

/-- What is entailed is entailed under other names. -/
theorem entails_rename_iff (inside : Flow.Within K vars c) :
    Entails K (cs.rename f) (c.rename f) ↔ Entails K cs c := by
  constructor
  · intro entailed σ solution
    obtain ⟨τ, belongs, agree⟩ := Valuation.exists_renamed keeps.injective solution.belongs
    have held := entailed τ
      (solution.rename belongs fun v listed => agree v (within.vars_subset v listed))
    rw [Flow.holds_rename] at held
    rw [← held]
    apply Flow.holds_congr
    intro v listed
    exact (agree v (inside.vars_subset v listed)).symm
  · intro entailed τ solution
    rw [Flow.holds_rename]
    exact entailed _ solution.of_rename

theorem entails_rename (lawful : K.Lawful) (inside : Flow.Within K vars c) :
    (cs.rename f).entails K (c.rename f) = cs.entails K c := by
  obtain ⟨lhs, rhs⟩ := keeps.rename_sides inside
  have left : (c.rename f).lhs.Known K := lhs ▸ inside.1.known_rename
  have right : (c.rename f).rhs.Known K := rhs ▸ inside.2.known_rename
  apply Bool.eq_iff_iff.mpr
  simp only [entails, Closure.entails_iff lawful within.based.rename left right,
    Closure.entails_iff lawful within.based inside.1.known inside.2.known,
    entails_rename_iff keeps within inside]

theorem isSat_rename (lawful : K.Lawful) : (cs.rename f).isSat K = cs.isSat K := by
  apply Bool.eq_iff_iff.mpr
  simp only [isSat, Closure.isSat_iff lawful within.based.rename,
    Closure.isSat_iff lawful within.based]
  constructor
  · intro satisfiable
    obtain ⟨τ, solution⟩ := satisfiable
    exact ⟨_, solution.of_rename⟩
  · intro satisfiable
    obtain ⟨σ, solution⟩ := satisfiable
    obtain ⟨τ, belongs, agree⟩ := Valuation.exists_renamed keeps.injective solution.belongs
    exact ⟨τ, solution.rename belongs fun v listed => agree v (within.vars_subset v listed)⟩

theorem settle_rename (lawful : K.Lawful) (inside : Flow.Within K vars c) :
    (cs.rename f).settle K (c.rename f) = (cs.settle K c).rename f := by
  have others : (cs.erase c).Within K vars := within.subset (erase_subset c)
  rw [settle, settle, erase_rename keeps within inside, entails_rename keeps others lawful inside]
  split <;> rfl

theorem proper_rename : (cs.rename f).proper = cs.proper.rename f := by
  apply filter_rename
  intro c member
  obtain ⟨lhs, rhs⟩ := keeps.rename_sides (within c member)
  simp only [Constraint.isTrivial, lhs, rhs,
    keeps.operand_inj (within c member).1 (within c member).2]

end Ordered

/-- The loop that drops derivable constraints takes the same turns under other names. -/
theorem dropDerivable_rename (keeps : KeepsOrder f vars) (lawful : K.Lawful)
    (within : kept.Within K vars) {asked : List Flow} (inside : ∀ c ∈ asked, Flow.Within K vars c) :
    (kept.rename f).dropDerivable K (asked.map (Flow.rename f)) =
      (kept.dropDerivable K asked).rename f := by
  induction asked generalizing kept with
  | nil => rfl
  | cons first rest ih =>
    have settled : (kept.settle K first).Within K vars := by
      apply within.subset
      intro d member
      unfold settle at member
      split at member
      · exact (mem_erase.mp member).1
      · exact member
    rw [List.map_cons, dropDerivable_cons, dropDerivable_cons,
      settle_rename keeps within lawful (inside first (by simp))]
    exact ih settled fun c later => inside c (List.mem_cons_of_mem first later)

theorem tighter_rename (keeps : KeepsOrder f vars) (left : Flow.Within K vars c)
    (right : Flow.Within K vars d) : tighter K (c.rename f) (d.rename f) = tighter K c d := by
  have below : ∀ a b : Operand, a.Within K vars → b.Within K vars →
      ((a.rename f).Below K (b.rename f) ↔ a.Below K b) := by
    intro a b insideA insideB
    have same := keeps.operand_inj insideA insideB
    cases a with
    | literal l =>
      cases b with
      | literal m => exact Iff.rfl
      | var w => exact same
    | var v => exact same
  obtain ⟨lhsC, rhsC⟩ := keeps.rename_sides left
  obtain ⟨lhsD, rhsD⟩ := keeps.rename_sides right
  apply Bool.eq_iff_iff.mpr
  simp only [tighter_iff, Flow.rename_kind, lhsC, rhsC, lhsD, rhsD, Operand.isLiteral_rename,
    ne_eq, keeps.flow_inj right left, below _ _ left.1 right.1, below _ _ right.2 left.2]

section Condensed

variable (keeps : KeepsOrder f vars) (lawful : K.Lawful) (within : cs.Within K vars)
include keeps within

theorem tightest_rename : (cs.rename f).tightest K = (cs.tightest K).rename f := by
  apply filter_rename
  intro c member
  have any : (cs.rename f).toList.any (tighter K (c.rename f)) = cs.toList.any (tighter K c) := by
    rw [toList_rename keeps within, List.any_map, Bool.eq_iff_iff]
    simp only [List.any_eq_true, Function.comp_apply]
    apply exists_congr
    intro d
    apply and_congr_right
    intro there
    rw [tighter_rename keeps (within c member) (within d there)]
  rw [any, Flow.rename_kind]

theorem backbone_rename : (cs.rename f).backbone K = (cs.backbone K).rename f := by
  rw [backbone, tightest_rename keeps within]
  apply filter_rename
  intro c _
  rw [Flow.rename_kind]

include lawful

theorem minimize_rename : (cs.rename f).minimize K = (cs.minimize K).rename f := by
  have proper : cs.proper.Within K vars := within.subset (filter_subset _)
  show (cs.rename f).proper.dropDerivable K (cs.rename f).proper.toList = _
  rw [proper_rename keeps within, toList_rename keeps proper]
  exact dropDerivable_rename keeps lawful proper fun c member => proper c member

theorem core_rename : (cs.rename f).core K = (cs.core K).rename f := by
  have backbone : (cs.backbone K).Within K vars :=
    within.subset fun c member => core_subset c (backbone_subset_core c member)
  rw [core, tightest_rename keeps within, backbone_rename keeps within]
  apply filter_rename
  intro c member
  rw [Flow.rename_kind,
    entails_rename keeps backbone lawful (within c (tightest_subset c member))]

theorem condense_rename : (cs.rename f).condense K = (cs.condense K).rename f := by
  rw [condense_eq, condense_eq, core_rename keeps lawful within]
  exact minimize_rename keeps lawful (within.subset core_subset)

end Condensed

theorem mem_candidates_rename {operands operands' : List Operand}
    (apart : ∀ a ∈ operands, ∀ b ∈ operands, a.rename f = b.rename f → a = b)
    (renamed : ∀ n, n ∈ operands' ↔ ∃ m ∈ operands, n = m.rename f) :
    c ∈ candidates operands' ↔ ∃ d ∈ candidates operands, c = d.rename f := by
  constructor
  · intro listed
    obtain ⟨a, memberA, b, memberB, kind, different, mixed, made⟩ := mem_candidates.mp listed
    obtain ⟨m, memberM, sameM⟩ := (renamed a).mp memberA
    obtain ⟨n, memberN, sameN⟩ := (renamed b).mp memberB
    subst sameM sameN
    refine ⟨.make m kind n, mem_candidates.mpr ⟨m, memberM, n, memberN, kind, ?_, ?_, rfl⟩, ?_⟩
    · intro same
      exact different (congrArg _ same)
    · simpa using mixed
    · rw [made, Flow.rename_make]
  · intro listed
    obtain ⟨d, candidate, same⟩ := listed
    obtain ⟨a, memberA, b, memberB, kind, different, mixed, made⟩ := mem_candidates.mp candidate
    refine mem_candidates.mpr ⟨a.rename f, (renamed _).mpr ⟨a, memberA, rfl⟩, b.rename f,
      (renamed _).mpr ⟨b, memberB, rfl⟩, kind, ?_, ?_, ?_⟩
    · intro equal
      exact different (apart a memberA b memberB equal)
    · simpa using mixed
    · rw [same, made, Flow.rename_make]

theorem contradiction_rename : (contradiction K).rename f = contradiction K := by
  apply ext_mem
  intro c
  simp [mem_rename, contradiction, Flow.rename_make, Operand.rename]

section Projected

variable (keeps : KeepsOrder f vars) (lawful : K.Lawful) (within : cs.Within K vars)
variable (inside : ∀ v ∈ vars, v ∈ onto) (outside : ∀ v ∈ vars, f v ∈ target)
include keeps lawful within inside outside

theorem entailedAmong_rename :
    (cs.rename f).entailedAmong K target = (cs.entailedAmong K onto).rename f := by
  have operands : ∀ n, n ∈ (cs.rename f).projectionOperands K target ↔
      ∃ m ∈ cs.projectionOperands K onto, n = m.rename f := by
    intro n
    simp only [mem_projectionOperands]
    constructor
    · intro kept
      cases n with
      | literal l => exact ⟨.literal l, kept, rfl⟩
      | var w =>
        obtain ⟨v, listed, same⟩ := mem_vars_rename.mp kept.1
        exact ⟨.var v, ⟨listed, inside v (within.vars_subset v listed)⟩, congrArg _ same⟩
    · intro renamed
      obtain ⟨m, kept, same⟩ := renamed
      subst same
      cases m with
      | literal l => exact kept
      | var v =>
        exact ⟨mem_vars_rename.mpr ⟨v, kept.1, rfl⟩, outside v (within.vars_subset v kept.1)⟩
  have apart : ∀ a ∈ cs.projectionOperands K onto, ∀ b ∈ cs.projectionOperands K onto,
      a.rename f = b.rename f → a = b := by
    intro a memberA b memberB
    exact (keeps.operand_inj (within.retained (mem_projectionOperands.mp memberA))
      (within.retained (mem_projectionOperands.mp memberB))).mp
  apply ext_mem
  intro c
  simp only [mem_entailedAmong lawful within.based.rename, mem_rename,
    mem_entailedAmong lawful within.based, mem_candidates_rename apart operands]
  constructor
  · intro listed
    obtain ⟨⟨d, candidate, same⟩, entailed⟩ := listed
    subst same
    obtain ⟨left, right⟩ := retained_of_mem_candidates candidate
    have sides : Flow.Within K vars d := ⟨within.retained left, within.retained right⟩
    exact ⟨d, ⟨candidate, (entails_rename_iff keeps within sides).mp entailed⟩, rfl⟩
  · intro listed
    obtain ⟨d, ⟨candidate, entailed⟩, same⟩ := listed
    subst same
    obtain ⟨left, right⟩ := retained_of_mem_candidates candidate
    have sides : Flow.Within K vars d := ⟨within.retained left, within.retained right⟩
    exact ⟨⟨d, candidate, rfl⟩, (entails_rename_iff keeps within sides).mpr entailed⟩

theorem project_rename : (cs.rename f).project K target = (cs.project K onto).rename f := by
  have same := isSat_rename keeps within lawful
  by_cases sat : cs.isSat K = true
  · have among : (cs.entailedAmong K onto).Within K vars := by
      intro c member
      obtain ⟨candidate, _⟩ := (mem_entailedAmong lawful within.based).mp member
      obtain ⟨left, right⟩ := retained_of_mem_candidates candidate
      exact ⟨within.retained left, within.retained right⟩
    rw [project_of_sat sat, project_of_sat (same.trans sat),
      entailedAmong_rename keeps lawful within inside outside]
    exact condense_rename keeps lawful among
  · rw [project_of_unsat sat, project_of_unsat (same ▸ sat), contradiction_rename]

end Projected

end ConstraintSet

end FlowTyping
