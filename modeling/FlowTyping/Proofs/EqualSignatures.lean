import FlowTyping.Proofs.CanonicalProjection
import FlowTyping.Proofs.Completion
import FlowTyping.Proofs.Instantiation
import FlowTyping.Proofs.OrderedRenaming
import FlowTyping.Proofs.WriteOnce

/-!
A signature is decided by what its unit allows at the boundary. The symbols of a signature do
not tell namespaces apart, and moving a boundary to another namespace keeps the order of its
variables; so the projections of two bodies restate to the same signature exactly when they
hold of the same values for the parameters and the result. Renaming, completing or minimizing
a body changes none of these, and a unit analysed again is registered without a conflict.
-/

namespace FlowTyping

variable {K : LevelLattice Level} {cs other : ConstraintSet} {σ : Valuation}
variable {ns ns' : Namespace} {count : Nat} {n : Operand} {c d : Flow} {f : TypeVar → TypeVar}

/-- The symbol of an operand at a boundary, whichever namespace the boundary is of. -/
def Operand.symbol : Operand → Symbol
  | .literal l => .literal l
  | .var ⟨_, .param, index⟩ => .param index
  | .var _ => .ret

def Flow.symbolic (c : Flow) : SymbolConstraint := .make c.lhs.symbol c.kind c.rhs.symbol

def ConstraintSet.symbolic (cs : ConstraintSet) : SymbolConstraints :=
  .ofList (cs.toList.map Flow.symbolic)

/-- The variable with its kind and index in another namespace. -/
def Namespace.adopt (ns : Namespace) (v : TypeVar) : TypeVar := { v with space := ns.number }

@[simp] theorem Operand.symbol_adopt (n : Operand) : (n.rename ns.adopt).symbol = n.symbol := by
  rcases n with l | ⟨space, kind, index⟩
  · rfl
  · cases kind <;> rfl

theorem Flow.symbolic_make (a b : Operand) (kind : Kind) :
    Flow.symbolic (.make a kind b) = .make a.symbol kind b.symbol := by
  rw [symbolic, Constraint.make_kind]
  rcases Constraint.make_sides a b kind with ⟨lhs, rhs⟩ | ⟨compatible, lhs, rhs⟩
  · rw [lhs, rhs]
  · rw [lhs, rhs, compatible]
    exact Constraint.make_compatible_comm _ _

namespace ConstraintSet

theorem mem_symbolic {s : SymbolConstraint} :
    s ∈ cs.symbolic ↔ ∃ c ∈ cs, c.symbolic = s := by
  rw [symbolic, SortedSet.mem_ofList, List.mem_map]
  rfl

/-- Which namespace a set is in does not show in its symbols. -/
theorem symbolic_adopt : (cs.rename ns.adopt).symbolic = cs.symbolic := by
  have same : ∀ c : Flow, (c.rename ns.adopt).symbolic = c.symbolic := by
    intro c
    rw [Flow.rename, Flow.symbolic_make, Operand.symbol_adopt, Operand.symbol_adopt]
    rfl
  apply SortedSet.ext_mem
  intro s
  simp only [mem_symbolic, mem_rename]
  constructor
  · intro listed
    obtain ⟨_, ⟨c, member, renamed⟩, made⟩ := listed
    subst renamed
    exact ⟨c, member, (same c).symm.trans made⟩
  · intro listed
    obtain ⟨c, member, made⟩ := listed
    exact ⟨_, ⟨c, member, rfl⟩, (same c).trans made⟩

end ConstraintSet

namespace Signature

section Boundary

variable (within : n.Within K (boundary ns count))
include within

theorem symbolOf_eq : symbolOf (unitParams ns count) (some ns.ret) n = .ok n.symbol := by
  cases n with
  | literal l => rfl
  | var v =>
    rcases mem_boundary.mp within with ret | ⟨i, below, param⟩
    · subst ret
      exact symbolOf_ret
    · subst param
      exact symbolOf_param below

theorem symbol_inj {m : Operand} (inside : m.Within K (boundary ns count))
    (same : n.symbol = m.symbol) : n = m := by
  cases n with
  | literal l =>
    cases m with
    | literal l' => exact congrArg _ (Symbol.literal.inj same)
    | var w =>
      rcases mem_boundary.mp inside with ret | ⟨i, _, param⟩
      · subst ret
        cases same
      · subst param
        cases same
  | var v =>
    cases m with
    | literal l' =>
      rcases mem_boundary.mp within with ret | ⟨i, _, param⟩
      · subst ret
        cases same
      · subst param
        cases same
    | var w =>
      rcases mem_boundary.mp within with ret | ⟨i, _, param⟩
      · rcases mem_boundary.mp inside with ret' | ⟨j, _, param'⟩
        · rw [ret, ret']
        · subst ret param'
          cases same
      · rcases mem_boundary.mp inside with ret' | ⟨j, _, param'⟩
        · subst param ret'
          cases same
        · subst param param'
          have positions : (i : Int) = j := Symbol.param.inj same
          rw [Int.ofNat_inj.mp positions]

end Boundary

/-- A symbolic constraint stands for one constraint of the boundary, whichever way the sides
of a compatibility are ordered. -/
theorem symbolic_inj (left : Flow.Within K (boundary ns count) c)
    (right : Flow.Within K (boundary ns count) d) (same : c.symbolic = d.symbolic) : c = d := by
  obtain ⟨kinds, ⟨lhs, rhs⟩ | ⟨compatible, lhs, rhs⟩⟩ := Constraint.eq_or_swapped_of_make_eq same
  · exact Constraint.eq_of_parts (symbol_inj left.1 right.1 lhs) kinds
      (symbol_inj left.2 right.2 rhs)
  · rw [← Constraint.make_parts c, ← Constraint.make_parts d, ← kinds, compatible,
      symbol_inj left.1 right.2 lhs, symbol_inj left.2 right.1 rhs]
    exact Constraint.make_compatible_comm _ _

theorem restate_eq (within : cs.Within K (boundary ns count)) :
    restate (unitParams ns count) (some ns.ret) cs = .ok cs.symbolic := by
  have each : ∀ c ∈ cs.toList,
      symbolize (unitParams ns count) (some ns.ret) c = .ok c.symbolic := by
    intro c member
    obtain ⟨left, right⟩ := within c member
    rw [symbolize, symbolOf_eq left, symbolOf_eq right]
    rfl
  rw [restate, mapM_eq each]
  rfl

end Signature

theorem ConstraintSet.symbolic_eq_iff (left : cs.Within K (Signature.boundary ns count))
    (right : other.Within K (Signature.boundary ns count)) :
    cs.symbolic = other.symbolic ↔ cs = other := by
  constructor
  · intro same
    apply ext_mem
    intro c
    constructor
    · intro member
      have listed : c.symbolic ∈ other.symbolic := same ▸ mem_symbolic.mpr ⟨c, member, rfl⟩
      obtain ⟨d, there, made⟩ := mem_symbolic.mp listed
      exact Signature.symbolic_inj (right d there) (left c member) made ▸ there
    · intro member
      have listed : c.symbolic ∈ cs.symbolic := same ▸ mem_symbolic.mpr ⟨c, member, rfl⟩
      obtain ⟨d, there, made⟩ := mem_symbolic.mp listed
      exact Signature.symbolic_inj (left d there) (right c member) made ▸ there
  · exact congrArg _

theorem ConstraintSet.project_within (lawful : K.Lawful) (based : cs.Over K) {onto : VarSet} :
    (cs.project K onto).Within K onto := by
  intro c member
  obtain ⟨left, right⟩ := project_retained lawful based c member
  exact ⟨left.within, right.within⟩

theorem Domain.signatureOfUnit_eq {domain : Domain} (built : domain.Built)
    (based : cs.Over domain.lattice) (ns : Namespace) (count : Nat) (effects : Effects) :
    (domain.signatureOfUnit cs ns count effects).1 =
      .ok ⟨(cs.project domain.lattice (Signature.boundary ns count)).symbolic, effects⟩ :=
  domain.signatureOfUnit_of_restate built based
    (Signature.restate_eq (ConstraintSet.project_within built.lawful based)) effects

theorem keepsOrder_adopt : KeepsOrder ns'.adopt (Signature.boundary ns count) := by
  have space : ∀ v ∈ Signature.boundary ns count, v.space = ns.number := by
    intro v member
    rcases Signature.mem_boundary.mp member with same | ⟨i, _, same⟩
    · rw [same, Namespace.ret]
    · rw [same, Namespace.paramVar]
  intro v left w right
  show TypeVar.order _ _ = TypeVar.order _ _
  simp only [TypeVar.order, compareLex, compareOn, Namespace.adopt, space v left, space w right,
    Std.ReflCmp.compare_self]
  rfl

theorem adopt_mem_boundary {v : TypeVar} (member : v ∈ Signature.boundary ns count) :
    ns'.adopt v ∈ Signature.boundary ns' count := by
  rcases Signature.mem_boundary.mp member with same | ⟨i, below, same⟩
  · subst same
    exact Signature.mem_boundary.mpr (Or.inl rfl)
  · subst same
    exact Signature.mem_boundary.mpr (Or.inr ⟨i, below, rfl⟩)

section Values

variable {args : Fin count → Value} {result : Value}

/-- Values for the parameters and the result as a valuation, alike in all namespaces. -/
def boundaryValuation (args : Fin count → Value) (result : Value) : Valuation
  | ⟨_, .param, index⟩ => if below : index.toNat < count then args ⟨index.toNat, below⟩ else .pub
  | _ => result

@[simp] theorem boundaryValuation_param (i : Fin count) :
    boundaryValuation args result (ns.paramVar i) = args i := by
  simp [boundaryValuation, Namespace.paramVar]

@[simp] theorem boundaryValuation_ret : boundaryValuation args result ns.ret = result := rfl

theorem boundaryValuation_adopt (v : TypeVar) :
    boundaryValuation args result (ns.adopt v) = boundaryValuation args result v := by
  obtain ⟨_, kind, _⟩ := v
  cases kind <;> rfl

theorem boundaryValuation_belongs (arguments : ∀ i, (args i).Belongs K)
    (returned : result.Belongs K) (v : TypeVar) :
    (boundaryValuation args result v).Belongs K := by
  obtain ⟨_, kind, index⟩ := v
  cases kind with
  | param =>
    simp only [boundaryValuation]
    split
    · exact arguments _
    · trivial
  | ret => exact returned
  | pc => exact returned
  | fresh => exact returned

/-- A valuation is at the boundary what its own values there make. -/
theorem boundaryValuation_self {v : TypeVar} (member : v ∈ Signature.boundary ns count) :
    boundaryValuation (fun i : Fin count => σ (ns.paramVar i)) (σ ns.ret) v = σ v := by
  rcases Signature.mem_boundary.mp member with same | ⟨i, below, same⟩
  · rw [same, boundaryValuation_ret]
  · rw [same]
    exact boundaryValuation_param ⟨i, below⟩

namespace ConstraintSet

/-- The values that a body allows its parameters and its result: they extend to a solution. -/
def Allows (K : LevelLattice Level) (cs : ConstraintSet) (ns : Namespace)
    (args : Fin count → Value) (result : Value) : Prop :=
  ∃ σ, Solution K cs σ ∧ (∀ i : Fin count, σ (ns.paramVar i) = args i) ∧ σ ns.ret = result

theorem allows_iff_extends :
    cs.Allows K ns args result ↔
      cs.Extends K (Signature.boundary ns count) (boundaryValuation args result) := by
  constructor
  · intro allowed
    obtain ⟨σ, solution, arguments, returned⟩ := allowed
    refine ⟨σ, solution, fun v member => ?_⟩
    have own : boundaryValuation (fun i : Fin count => σ (ns.paramVar i)) (σ ns.ret) v = σ v :=
      boundaryValuation_self member
    rw [← own, returned, funext arguments]
  · intro extended
    obtain ⟨σ, solution, agree⟩ := extended
    refine ⟨σ, solution, fun i => ?_, ?_⟩
    · rw [agree _ (Signature.mem_boundary.mpr (Or.inr ⟨i, i.isLt, rfl⟩)), boundaryValuation_param]
    · exact agree _ (Signature.mem_boundary.mpr (Or.inl rfl))

namespace Within

variable (within : cs.Within K (Signature.boundary ns count))
include within

theorem adopt : (cs.rename ns'.adopt).Within K (Signature.boundary ns' count) := by
  have moved : ∀ n : Operand, n.Within K (Signature.boundary ns count) →
      (n.rename ns'.adopt).Within K (Signature.boundary ns' count) := by
    intro n inside
    cases n with
    | literal l => exact inside
    | var v => exact adopt_mem_boundary inside
  intro c member
  obtain ⟨d, there, renamed⟩ := mem_rename.mp member
  subst renamed
  obtain ⟨left, right⟩ := within d there
  exact Constraint.make_both (moved _ left) (moved _ right) d.kind

/-- To solve what talks about a boundary is a matter of the values there. -/
theorem solution_iff (belongs : ∀ v, (σ v).Belongs K) :
    Solution K cs σ ↔ ∀ c ∈ cs, Flow.holds K
      (boundaryValuation (fun i : Fin count => σ (ns.paramVar i)) (σ ns.ret)) c = true := by
  have alike : ∀ c ∈ cs, Flow.holds K σ c = Flow.holds K
      (boundaryValuation (fun i : Fin count => σ (ns.paramVar i)) (σ ns.ret)) c := by
    intro c member
    apply Flow.holds_congr
    intro v listed
    exact (boundaryValuation_self ((within c member).vars_subset v listed)).symm
  constructor
  · intro solution c member
    exact (alike c member) ▸ solution.holds c member
  · intro holds
    exact ⟨belongs, fun c member => (alike c member).trans (holds c member)⟩

end Within

section Bodies

variable (lawful : K.Lawful) (based : cs.Over K) (plain : ∀ c ∈ cs, c.kind ≠ .implies)
include lawful based plain

/-- A body without `=>` allows the values of which its projection holds. -/
theorem allows_iff_projected (arguments : ∀ i, (args i).Belongs K) (returned : result.Belongs K) :
    cs.Allows K ns args result ↔ ∀ c ∈ cs.project K (Signature.boundary ns count),
      Flow.holds K (boundaryValuation args result) c = true := by
  rw [allows_iff_extends]
  exact extends_iff lawful based plain fun v _ => boundaryValuation_belongs arguments returned v

theorem allows_iff_adopted (arguments : ∀ i, (args i).Belongs K) (returned : result.Belongs K) :
    cs.Allows K ns args result ↔
      ∀ c ∈ (cs.project K (Signature.boundary ns count)).rename ns'.adopt,
        Flow.holds K (boundaryValuation args result) c = true := by
  rw [allows_iff_projected lawful based plain arguments returned, rename_holds_iff]
  simp only [boundaryValuation_adopt]

omit plain in
/-- Moving a projection to another namespace and projecting it there adds nothing. -/
theorem project_adopted :
    ((cs.project K (Signature.boundary ns count)).rename ns'.adopt).project K
        (Signature.boundary ns' count) =
      (cs.project K (Signature.boundary ns count)).rename ns'.adopt := by
  rw [project_rename keepsOrder_adopt lawful (project_within lawful based) (fun _ member => member)
    (fun _ member => adopt_mem_boundary member),
    project_project lawful based fun _ member => member]

variable (overOther : other.Over K) (plainOther : ∀ c ∈ other, c.kind ≠ .implies)
include overOther plainOther

/-- Projections onto the boundary are the same, up to the namespace, exactly when the bodies
allow the same values. -/
theorem project_adopted_eq_iff :
    (cs.project K (Signature.boundary ns count)).rename ns'.adopt =
        other.project K (Signature.boundary ns' count) ↔
      ∀ (args : Fin count → Value) (result : Value), (∀ i, (args i).Belongs K) →
        result.Belongs K → (cs.Allows K ns args result ↔ other.Allows K ns' args result) := by
  have here : ((cs.project K (Signature.boundary ns count)).rename ns'.adopt).Within K
      (Signature.boundary ns' count) := (project_within lawful based).adopt
  have there : (other.project K (Signature.boundary ns' count)).Within K
      (Signature.boundary ns' count) := project_within lawful overOther
  constructor
  · intro same args result arguments returned
    rw [allows_iff_adopted lawful based plain arguments returned, same,
      allows_iff_projected lawful overOther plainOther arguments returned]
  · intro agree
    have solutions : ∀ σ : Valuation, (∀ v, (σ v).Belongs K) →
        (Solution K ((cs.project K (Signature.boundary ns count)).rename ns'.adopt) σ ↔
          Solution K (other.project K (Signature.boundary ns' count)) σ) := by
      intro σ belongs
      rw [here.solution_iff belongs, there.solution_iff belongs,
        ← allows_iff_adopted lawful based plain (fun i => belongs _) (belongs _),
        ← allows_iff_projected lawful overOther plainOther (fun i => belongs _) (belongs _)]
      exact agree _ _ (fun i => belongs _) (belongs _)
    rw [← project_adopted lawful based, ← project_project lawful overOther fun _ member => member]
    apply project_congr lawful here.based there.based
    intro c _ _
    constructor
    · intro entailed σ solution
      exact entailed σ ((solutions σ solution.belongs).mpr solution)
    · intro entailed σ solution
      exact entailed σ ((solutions σ solution.belongs).mp solution)

end Bodies

end ConstraintSet

end Values

/-- A renaming moves the boundary of a unit to another namespace and keeps the variables of
its body apart. -/
structure Moves (cs : ConstraintSet) (ns ns' : Namespace) (count : Nat)
    (f : TypeVar → TypeVar) : Prop where
  param : ∀ i < count, f (ns.paramVar i) = ns'.paramVar i
  ret : f ns.ret = ns'.ret
  apart : ∀ v ∈ cs.vars.union (Signature.boundary ns count),
    ∀ w ∈ cs.vars.union (Signature.boundary ns count), f v = f w → v = w

theorem Moves.allows_iff (moves : Moves cs ns ns' count f) {args : Fin count → Value}
    {result : Value} :
    (cs.rename f).Allows K ns' args result ↔ cs.Allows K ns args result := by
  constructor
  · intro allowed
    obtain ⟨σ, solution, arguments, returned⟩ := allowed
    refine ⟨_, solution.of_rename, fun i => ?_, ?_⟩
    · rw [moves.param i i.isLt, arguments]
    · rw [moves.ret, returned]
  · intro allowed
    obtain ⟨σ, solution, arguments, returned⟩ := allowed
    obtain ⟨τ, belongs, agree⟩ := Valuation.exists_renamed moves.apart solution.belongs
    refine ⟨τ, solution.rename belongs fun v listed => ?_, fun i => ?_, ?_⟩
    · exact agree v (SortedSet.mem_union.mpr (Or.inl listed))
    · have member : ns.paramVar i ∈ Signature.boundary ns count :=
        Signature.mem_boundary.mpr (Or.inr ⟨i, i.isLt, rfl⟩)
      rw [← moves.param i i.isLt, agree _ (SortedSet.mem_union.mpr (Or.inr member)), arguments]
    · have member : ns.ret ∈ Signature.boundary ns count :=
        Signature.mem_boundary.mpr (Or.inl rfl)
      rw [← moves.ret, agree _ (SortedSet.mem_union.mpr (Or.inr member)), returned]

/-- What a unit may look like when it is analysed again: its body renamed into another
namespace, completed or minimized, any of these any number of times. -/
inductive Reanalysed (domain : Domain) (count : Nat) (cs : ConstraintSet) (ns : Namespace) :
    ConstraintSet → Namespace → Prop where
  | first : Reanalysed domain count cs ns cs ns
  | renamed {body : ConstraintSet} {here there : Namespace} {f : TypeVar → TypeVar}
      (earlier : Reanalysed domain count cs ns body here) (moves : Moves body here there count f) :
      Reanalysed domain count cs ns (body.rename f) there
  | closed {body : ConstraintSet} {here : Namespace}
      (earlier : Reanalysed domain count cs ns body here) :
      Reanalysed domain count cs ns body.close here
  | minimized {body kept : ConstraintSet} {here : Namespace}
      (earlier : Reanalysed domain count cs ns body here)
      (computed : Checked.minimize domain body = .ok kept) :
      Reanalysed domain count cs ns kept here

section Again

variable {domain : Domain} (built : domain.Built) (based : cs.Over domain.lattice)
variable (plain : ∀ c ∈ cs, c.kind ≠ .implies)
include built based plain

theorem Reanalysed.allows_iff {body : ConstraintSet}
    (again : Reanalysed domain count cs ns body ns') :
    body.Over domain.lattice ∧ (∀ c ∈ body, c.kind ≠ .implies) ∧
      ∀ (args : Fin count → Value) (result : Value),
        (cs.Allows domain.lattice ns args result ↔ body.Allows domain.lattice ns' args result) := by
  induction again with
  | first => exact ⟨based, plain, fun _ _ => Iff.rfl⟩
  | renamed earlier moves ih =>
    obtain ⟨covered, free, same⟩ := ih
    refine ⟨covered.rename, ?_, fun args result => (same args result).trans moves.allows_iff.symm⟩
    intro c member
    obtain ⟨d, there, renamed⟩ := ConstraintSet.mem_rename.mp member
    subst renamed
    rw [Flow.rename_kind]
    exact free d there
  | closed earlier ih =>
    obtain ⟨covered, free, same⟩ := ih
    refine ⟨covered.close, ConstraintSet.close_plain free, fun args result => ?_⟩
    rw [same args result]
    simp only [ConstraintSet.Allows, ConstraintSet.close_solution_iff built.lawful covered]
  | minimized earlier computed ih =>
    obtain ⟨covered, free, same⟩ := ih
    rw [Checked.minimize_eq built covered] at computed
    have kept := Except.ok.inj computed
    subst kept
    refine ⟨covered.subset ConstraintSet.minimize_subset,
      fun c member => free c (ConstraintSet.minimize_subset c member), fun args result => ?_⟩
    rw [same args result]
    simp only [ConstraintSet.Allows, ConstraintSet.minimize_solution_iff built.lawful covered]

/-- Projections restate to the same constraints exactly when the bodies allow the same
values. -/
theorem symbolic_project_eq_iff (overOther : other.Over domain.lattice)
    (plainOther : ∀ c ∈ other, c.kind ≠ .implies) :
    (cs.project domain.lattice (Signature.boundary ns count)).symbolic =
        (other.project domain.lattice (Signature.boundary ns' count)).symbolic ↔
      ∀ (args : Fin count → Value) (result : Value), (∀ i, (args i).Belongs domain.lattice) →
        result.Belongs domain.lattice →
        (cs.Allows domain.lattice ns args result ↔
          other.Allows domain.lattice ns' args result) := by
  have lawful := built.lawful
  rw [← ConstraintSet.project_adopted_eq_iff lawful based plain overOther plainOther,
    ← ConstraintSet.symbolic_eq_iff (ConstraintSet.project_within lawful based).adopt
      (ConstraintSet.project_within lawful overOther), ConstraintSet.symbolic_adopt]

/-- Equal signatures mean equal behaviour at the boundary. Signing a unit without `=>` is
never refused, and two units have the same constraints in their signatures exactly when they
allow the same values for their parameters and results, whatever their namespaces, local
variables and written forms. So a unit that is analysed again can be registered again with the
same effects, however many registrations stand between. -/
theorem signatures_equal_iff_behaviour (ns : Namespace) (count : Nat) (effects : Effects) :
    ∃ signature, (domain.signatureOfUnit cs ns count effects).1 = .ok signature ∧
      (∀ (other : ConstraintSet) (ns' : Namespace) (effects' : Effects),
        other.Over domain.lattice → (∀ c ∈ other, c.kind ≠ .implies) →
        ∃ signature', (domain.signatureOfUnit other ns' count effects').1 = .ok signature' ∧
          (signature.constraints = signature'.constraints ↔
            ∀ (args : Fin count → Value) (result : Value),
              (∀ i, (args i).Belongs domain.lattice) → result.Belongs domain.lattice →
              (cs.Allows domain.lattice ns args result ↔
                other.Allows domain.lattice ns' args result))) ∧
      ∀ (body : ConstraintSet) (ns' : Namespace), Reanalysed domain count cs ns body ns' →
        ∃ again, (domain.signatureOfUnit body ns' count effects).1 = .ok again ∧
          ∀ (registry next later : Registry) (key : String) (stored : Signature),
            registry.register key signature = .ok (stored, next) → Registry.Later next later →
            later.register key again = .ok (stored, later) := by
  refine ⟨_, domain.signatureOfUnit_eq built based ns count effects, ?_, ?_⟩
  · intro other ns' effects' overOther plainOther
    exact ⟨_, domain.signatureOfUnit_eq built overOther ns' count effects',
      symbolic_project_eq_iff built based plain overOther plainOther⟩
  · intro body ns' again
    obtain ⟨covered, free, same⟩ := again.allows_iff built based plain
    refine ⟨_, domain.signatureOfUnit_eq built covered ns' count effects, ?_⟩
    intro registry next later key stored registered run
    rw [← (symbolic_project_eq_iff built based plain covered free).mpr
      fun args result _ _ => same args result]
    exact run.register registered

end Again

/-- A unit that hands its parameter on through a local variable. -/
def handingBody (ns : Namespace) (index : Nat) : ConstraintSet :=
  .ofList [.make (.var (ns.paramVar 0)) .flow (.var (ns.freshVar index)),
    .make (.var (ns.freshVar index)) .flow (.var ns.ret)]

def directBody (ns : Namespace) : ConstraintSet :=
  .ofList [.make (.var (ns.paramVar 0)) .flow (.var ns.ret)]

/-- The local variable does not show, the flow does, and the unit can be analysed again in
another namespace, with another local variable and its derived flows written out. -/
theorem signatures_equal_iff_behaviour_handing :
    let K := Domain.twoPoint.lattice
    let here := Namespace.create 1 "x"
    let there := Namespace.create 2 "y"
    (∀ (args : Fin 1 → Value) (result : Value), (∀ i, (args i).Belongs K) → result.Belongs K →
      ((handingBody here 0).Allows K here args result ↔
        (directBody there).Allows K there args result)) ∧
      (¬ ∀ (args : Fin 1 → Value) (result : Value), (∀ i, (args i).Belongs K) →
        result.Belongs K → ((handingBody here 0).Allows K here args result ↔
          (ConstraintSet.ofList []).Allows K there args result)) ∧
      ∃ signature again stored next,
        (Domain.twoPoint.signatureOfUnit (handingBody here 0) here 1 .empty).1 = .ok signature ∧
        (Domain.twoPoint.signatureOfUnit (handingBody there 7).close there 1 .empty).1 =
          .ok again ∧
        Registry.empty.register "hand" signature = .ok (stored, next) ∧
        next.register "hand" again = .ok (stored, next) := by
  intro K here there
  have built := Domain.Built.twoPoint
  have based : (handingBody here 0).Over K := by decide +kernel
  have plain : ∀ c ∈ handingBody here 0, c.kind ≠ .implies := by decide +kernel
  obtain ⟨signature, signed, compared, registered⟩ :=
    signatures_equal_iff_behaviour built based plain here 1 .empty
  have signature_eq := Except.ok.inj
    ((Domain.twoPoint.signatureOfUnit_eq built based here 1 .empty).symm.trans signed)
  refine ⟨?_, ?_, ?_⟩
  · have covered : (directBody there).Over K := by decide +kernel
    obtain ⟨direct, signed', verdict⟩ := compared (directBody there) there .empty covered
      (by decide +kernel)
    apply verdict.mp
    rw [← signature_eq, ← Except.ok.inj
      ((Domain.twoPoint.signatureOfUnit_eq built covered there 1 .empty).symm.trans signed')]
    decide +kernel
  · have covered : (ConstraintSet.ofList []).Over K := by decide +kernel
    obtain ⟨open', signed', verdict⟩ := compared (.ofList []) there .empty covered
      (by decide +kernel)
    intro agree
    have same := verdict.mpr agree
    rw [← signature_eq, ← Except.ok.inj
      ((Domain.twoPoint.signatureOfUnit_eq built covered there 1 .empty).symm.trans signed')] at same
    revert same
    decide +kernel
  · let f : TypeVar → TypeVar := fun v =>
      ⟨2, v.kind, if v.kind = .fresh then v.index + 7 else v.index⟩
    have moves : Moves (handingBody here 0) here there 1 f := by
      refine ⟨?_, rfl, by decide +kernel⟩
      intro i _
      rfl
    have renamed : (handingBody here 0).rename f = handingBody there 7 := by decide +kernel
    obtain ⟨again, signed', accepted⟩ := registered _ there (.closed (.renamed .first moves))
    rw [renamed] at signed'
    exact ⟨signature, again, _, _, signed, signed', rfl,
      accepted .empty _ _ "hand" signature rfl .refl⟩

end FlowTyping
