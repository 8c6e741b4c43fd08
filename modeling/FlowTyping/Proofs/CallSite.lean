import FlowTyping.Proofs.Instantiation
import FlowTyping.Proofs.LeastAssignment

/-!
A call may use the signature of its callee instead of the body. Projection loses nothing
about the boundary, and the inner variables of the body occur nowhere else, so a solution
for the caller and the instance extends to the inlined body without changing outside it.
The least solutions then agree outside the body, and so do the assignments.
-/

namespace FlowTyping

variable {K : LevelLattice Level} {cs caller : ConstraintSet} {σ : Valuation}
variable {onto : VarSet} {f : TypeVar → TypeVar}

/-- A solution for the caller and the renamed body solves the caller with the renamed
projection. -/
theorem Solution.instance_of_inlined (lawful : K.Lawful) (based : cs.Over K)
    (solution : Solution K (caller.union (cs.rename f)) σ) :
    Solution K (caller.union ((cs.project K onto).rename f)) σ := by
  obtain ⟨calling, inlined⟩ := Solution.union_iff.mp solution
  refine Solution.union_iff.mpr ⟨calling, solution.belongs, ?_⟩
  apply ConstraintSet.rename_holds_iff.mpr
  exact ConstraintSet.project_holds lawful based inlined.of_rename fun _ _ => rfl

theorem instance_over (lawful : K.Lawful) (based : cs.Over K) (callerOver : caller.Over K) :
    (caller.union ((cs.project K onto).rename f)).Over K :=
  callerOver.union (cs.project_over lawful based).rename

theorem inlined_over (based : cs.Over K) (callerOver : caller.Over K) :
    (caller.union (cs.rename f)).Over K :=
  callerOver.union based.rename

theorem isSat_instance_of_inlined (lawful : K.Lawful) (based : cs.Over K)
    (callerOver : caller.Over K) (sat : (caller.union (cs.rename f)).isSat K = true) :
    (caller.union ((cs.project K onto).rename f)).isSat K = true := by
  obtain ⟨σ, solution⟩ := (Closure.isSat_iff lawful (inlined_over based callerOver)).mp sat
  apply (Closure.isSat_iff lawful (instance_over lawful based callerOver)).mpr
  exact ⟨σ, solution.instance_of_inlined lawful based⟩

/-- A renaming takes the retained variables of a body out of it and leaves the others. -/
structure Outward (cs : ConstraintSet) (onto : VarSet) (f : TypeVar → TypeVar) : Prop where
  outer : ∀ v ∈ onto, f v ∉ cs.vars
  inner : ∀ v, v ∉ onto → f v = v

section Body

variable (lawful : K.Lawful) (based : cs.Over K) (outward : Outward cs onto f)
variable (apart : ∀ v ∈ caller.vars, v ∉ cs.vars) (plain : ∀ c ∈ cs, c.kind ≠ .implies)
include lawful based outward

theorem Outward.vars_project :
    ∀ v ∈ ((cs.project K onto).rename f).vars, v ∉ cs.vars ∧ v ∈ (cs.rename f).vars := by
  intro v listed
  obtain ⟨w, there, rfl⟩ := ConstraintSet.mem_vars_rename.mp listed
  obtain ⟨inside, kept⟩ := ConstraintSet.project_vars lawful based w there
  exact ⟨outward.outer w kept, ConstraintSet.mem_vars_rename.mpr ⟨w, inside, rfl⟩⟩

include apart plain

/-- Without `=>`, a solution for the caller with the renamed projection changes inside the
body only to become one for the caller with the renamed body. -/
theorem Outward.extends_inside
    (solution : Solution K (caller.union ((cs.project K onto).rename f)) σ) :
    ∃ ρ, Solution K (caller.union (cs.rename f)) ρ ∧ ∀ v, v ∉ cs.vars → ρ v = σ v := by
  obtain ⟨calling, projected⟩ := Solution.union_iff.mp solution
  obtain ⟨τ, body, agree⟩ := ConstraintSet.project_extends lawful based plain
    (fun v _ => solution.belongs (f v)) (ConstraintSet.rename_holds_iff.mp projected.holds)
  obtain ⟨ρ, inside, outside⟩ : ∃ ρ : Valuation, (∀ v ∈ cs.vars, ρ v = τ v) ∧
      ∀ v, v ∉ cs.vars → ρ v = σ v :=
    ⟨fun v => if v ∈ cs.vars then τ v else σ v, fun v member => if_pos member,
      fun v missing => if_neg missing⟩
  have belongs : ∀ v, (ρ v).Belongs K := by
    intro v
    by_cases member : v ∈ cs.vars
    · exact inside v member ▸ body.belongs v
    · exact outside v member ▸ solution.belongs v
  have renamed : ∀ v ∈ cs.vars, ρ (f v) = τ v := by
    intro v member
    by_cases kept : v ∈ onto
    · rw [outside _ (outward.outer v kept), agree v kept]
    · rw [outward.inner v kept, inside v member]
  refine ⟨ρ, Solution.union_iff.mpr ⟨?_, body.rename belongs renamed⟩, outside⟩
  exact calling.congr belongs fun v listed => outside v (apart v listed)

variable (callerOver : caller.Over K)
include callerOver

theorem Outward.isSat_iff :
    (caller.union ((cs.project K onto).rename f)).isSat K = true ↔
      (caller.union (cs.rename f)).isSat K = true := by
  constructor
  · intro sat
    obtain ⟨σ, solution⟩ :=
      (Closure.isSat_iff lawful (instance_over lawful based callerOver)).mp sat
    obtain ⟨ρ, extended, _⟩ := outward.extends_inside lawful based apart plain solution
    exact (Closure.isSat_iff lawful (inlined_over based callerOver)).mpr ⟨ρ, extended⟩
  · exact isSat_instance_of_inlined lawful based callerOver

theorem Outward.leastValuation_eq
    (sat : (caller.union ((cs.project K onto).rename f)).isSat K = true) {v : TypeVar}
    (outside : v ∉ cs.vars) :
    leastValuation K (caller.union ((cs.project K onto).rename f)) .none v =
      leastValuation K (caller.union (cs.rename f)) .none v := by
  have instanceOver : (caller.union ((cs.project K onto).rename f)).Over K :=
    instance_over lawful based callerOver
  obtain ⟨σ, solution⟩ := (Closure.isSat_iff lawful instanceOver).mp sat
  apply FlowTyping.leastValuation_eq lawful instanceOver (inlined_over based callerOver) solution
  · intro σ solution
    obtain ⟨ρ, extended, same⟩ := outward.extends_inside lawful based apart plain solution
    exact ⟨ρ, extended, same v outside⟩
  · intro τ solution
    exact ⟨τ, solution.instance_of_inlined lawful based, rfl⟩

end Body

theorem Outward.assignments_agree {domain : Domain} (built : domain.Built)
    (based : cs.Over domain.lattice) (callerOver : caller.Over domain.lattice)
    (outward : Outward cs onto f) (apart : ∀ v ∈ caller.vars, v ∉ cs.vars)
    (plain : ∀ c ∈ cs, c.kind ≠ .implies)
    (sat : (caller.union ((cs.project domain.lattice onto).rename f)).isSat domain.lattice = true) :
    ∃ short long,
      Checked.leastAssignment domain
        (caller.union ((cs.project domain.lattice onto).rename f)) [] = .ok (some short) ∧
      Checked.leastAssignment domain (caller.union (cs.rename f)) [] = .ok (some long) ∧
      ∀ v ∈ (caller.union ((cs.project domain.lattice onto).rename f)).vars,
        ∃ level, short.get? v = some level ∧ long.get? v = some level := by
  have lawful := built.lawful
  have satInlined := (outward.isSat_iff lawful based apart plain callerOver).mp sat
  obtain ⟨short, assigned, levels⟩ :=
    leastAssignment_get built (instance_over lawful based callerOver) sat
  obtain ⟨long, assigned', levels'⟩ :=
    leastAssignment_get built (inlined_over based callerOver) satInlined
  refine ⟨short, long, assigned, assigned', ?_⟩
  intro v listed
  have places : v ∉ cs.vars ∧ v ∈ (caller.union (cs.rename f)).vars := by
    rcases ConstraintSet.mem_vars_union.mp listed with there | there
    · exact ⟨apart v there, ConstraintSet.mem_vars_union.mpr (Or.inl there)⟩
    · obtain ⟨outside, inlined⟩ := outward.vars_project lawful based v there
      exact ⟨outside, ConstraintSet.mem_vars_union.mpr (Or.inr inlined)⟩
  have same := outward.leastValuation_eq lawful based apart plain callerOver sat places.1
  refine ⟨_, levels v listed, ?_⟩
  rw [levels' v places.2, same]

/-- The body of a unit put in place of a call: the arguments for the parameters, the result
for the returned value, all other variables as they are. -/
def ConstraintSet.inlined (cs : ConstraintSet) (ns : Namespace) (count : Nat)
    (args : Table Int TypeVar) (result : TypeVar) : ConstraintSet :=
  cs.rename (callVar ns count args result)

theorem outward_callVar {ns : Namespace} {count : Nat} {args : Table Int TypeVar}
    {result : TypeVar}
    (fresh : ∀ i < count, ∃ v, Table.find? args (Int.ofNat i) = some v ∧ v ∉ cs.vars)
    (freshResult : result ∉ cs.vars) :
    Outward cs (Signature.boundary ns count) (callVar ns count args result) := by
  refine ⟨?_, fun v inner => callVar_inner inner⟩
  intro v kept
  rcases Signature.mem_boundary.mp kept with rfl | ⟨i, below, rfl⟩
  · rw [callVar_ret]
    exact freshResult
  · obtain ⟨v, given, missing⟩ := fresh i below
    rw [callVar_param below given]
    exact missing

/-- Signing a unit and instantiating the signature at a call gives the projection of its body
over the variables of the call. -/
theorem Domain.instantiate_signatureOfUnit {domain : Domain} (built : domain.Built)
    (based : cs.Over domain.lattice) (ns : Namespace) (count : Nat) (effects : Effects)
    {args : Table Int TypeVar} {result : TypeVar} {mapping : Table Symbol TypeVar}
    (supplies : Signature.Supplies count args result mapping) :
    ∃ signature, (domain.signatureOfUnit cs ns count effects).1 = .ok signature ∧
      signature.instantiate mapping =
        .ok ((cs.project domain.lattice (Signature.boundary ns count)).rename
          (callVar ns count args result)) := by
  have carried : ∀ c ∈ cs.project domain.lattice (Signature.boundary ns count),
      Signature.Carried (Signature.unitParams ns count) (some ns.ret) mapping
        (callVar ns count args result) c.lhs ∧
      Signature.Carried (Signature.unitParams ns count) (some ns.ret) mapping
        (callVar ns count args result) c.rhs := by
    intro c member
    obtain ⟨left, right⟩ := cs.project_retained built.lawful based c member
    exact ⟨Signature.carried_of_retained supplies left, Signature.carried_of_retained supplies right⟩
  obtain ⟨constraints, restated, instantiated⟩ := Signature.instantiate_restate carried effects
  exact ⟨⟨constraints, effects⟩, domain.signatureOfUnit_of_restate built based restated effects,
    instantiated⟩

/-- A call site may use the signature instead of the body. Instantiating the signature of a
unit is never refused; what the caller then gets is satisfiable whenever the caller with the
inlined body is. Without `=>` in the body it is satisfiable only then, and both give the
variables of the caller and the instance the same levels. -/
theorem signature_replaces_body {domain : Domain} (built : domain.Built)
    (based : cs.Over domain.lattice) (callerOver : caller.Over domain.lattice) (ns : Namespace)
    (count : Nat) (effects : Effects) {args : Table Int TypeVar} {result : TypeVar}
    (apart : ∀ v ∈ caller.vars, v ∉ cs.vars)
    (fresh : ∀ i < count, ∃ v, Table.find? args (Int.ofNat i) = some v ∧ v ∉ cs.vars)
    (freshResult : result ∉ cs.vars) :
    ∃ signature mapping instantiated,
      (domain.signatureOfUnit cs ns count effects).1 = .ok signature ∧
      Signature.callMapping count args (some result) = .ok mapping ∧
      signature.instantiate mapping = .ok instantiated ∧
      ((caller.union (cs.inlined ns count args result)).isSat domain.lattice = true →
        (caller.union instantiated).isSat domain.lattice = true) ∧
      ((∀ c ∈ cs, c.kind ≠ .implies) →
        ((caller.union instantiated).isSat domain.lattice = true ↔
          (caller.union (cs.inlined ns count args result)).isSat domain.lattice = true) ∧
        ((caller.union instantiated).isSat domain.lattice = true →
          ∃ short long,
            Checked.leastAssignment domain (caller.union instantiated) [] = .ok (some short) ∧
            Checked.leastAssignment domain (caller.union (cs.inlined ns count args result)) [] =
              .ok (some long) ∧
            ∀ v ∈ (caller.union instantiated).vars,
              ∃ level, short.get? v = some level ∧ long.get? v = some level)) := by
  have lawful := built.lawful
  obtain ⟨mapping, mapped, supplies⟩ : ∃ mapping,
      Signature.callMapping count args (some result) = .ok mapping ∧
        Signature.Supplies count args result mapping :=
    Signature.callMapping_ok fun i below => (fresh i below).imp fun _ both => both.1
  obtain ⟨signature, signed, instantiated⟩ :=
    domain.instantiate_signatureOfUnit built based ns count effects supplies
  have outward : Outward cs (Signature.boundary ns count) (callVar ns count args result) :=
    outward_callVar fresh freshResult
  refine ⟨signature, mapping, _, signed, mapped, instantiated, ?_, ?_⟩
  · exact isSat_instance_of_inlined lawful based callerOver
  · intro plain
    exact ⟨outward.isSat_iff lawful based apart plain callerOver,
      outward.assignments_agree built based callerOver apart plain⟩

/-- A unit whose parameters flow into what it returns, one of them through a variable. -/
def joiningBody (ns : Namespace) : ConstraintSet :=
  let p (position : Nat) : Operand := .var (ns.paramVar position)
  .ofList [.make (p 0) .flow (.var ns.ret), .make (p 1) .flow (.var (ns.freshVar 0)),
    .make (.var (ns.freshVar 0)) .flow (.var ns.ret),
    .make (p 0) .compatible (.var (ns.freshVar 0))]

/-- A caller with two arguments at levels side by side and a result below the top. -/
def joiningCaller (ns : Namespace) : ConstraintSet :=
  let named (name : String) : Operand := .literal (.level (.name name))
  .ofList [.make (named "left") .flow (.var (ns.freshVar 0)),
    .make (named "right") .flow (.var (ns.freshVar 1)),
    .make (.var (ns.freshVar 2)) .flow (named "top")]

theorem signature_replaces_body_join :
    let callee := Namespace.create 1 "x"
    let caller := Namespace.create 2 "y"
    let args : Table Int TypeVar := [(0, caller.freshVar 0), (1, caller.freshVar 1)]
    ∃ signature mapping instantiated short long,
      (Domain.diamond.signatureOfUnit (joiningBody callee) callee 2 .empty).1 = .ok signature ∧
      Signature.callMapping 2 args (some (caller.freshVar 2)) = .ok mapping ∧
      signature.instantiate mapping = .ok instantiated ∧
      Checked.leastAssignment Domain.diamond ((joiningCaller caller).union instantiated) [] =
        .ok (some short) ∧
      Checked.leastAssignment Domain.diamond ((joiningCaller caller).union
        ((joiningBody callee).inlined callee 2 args (caller.freshVar 2))) [] = .ok (some long) ∧
      ∃ level, short.get? (caller.freshVar 2) = some level ∧
        long.get? (caller.freshVar 2) = some level := by
  intro callee caller args
  have based : (joiningBody callee).Over Domain.diamond.lattice := by decide +kernel
  have callerOver : (joiningCaller caller).Over Domain.diamond.lattice := by decide +kernel
  have apart : ∀ v ∈ (joiningCaller caller).vars, v ∉ (joiningBody callee).vars := by
    decide +kernel
  have fresh : ∀ i < 2, ∃ v, Table.find? args (Int.ofNat i) = some v ∧
      v ∉ (joiningBody callee).vars := by
    intro i below
    obtain rfl | rfl : i = 0 ∨ i = 1 := by omega
    · exact ⟨caller.freshVar 0, rfl, by decide +kernel⟩
    · exact ⟨caller.freshVar 1, rfl, by decide +kernel⟩
  have plain : ∀ c ∈ joiningBody callee, c.kind ≠ .implies := by decide +kernel
  have sat : ((joiningCaller caller).union ((joiningBody callee).inlined callee 2 args
      (caller.freshVar 2))).isSat Domain.diamond.lattice = true := by decide +kernel
  obtain ⟨signature, mapping, instantiated, signed, mapped, answered, implied, agree⟩ :=
    signature_replaces_body Domain.diamond_built based callerOver callee 2 .empty apart fresh
      (by decide +kernel : caller.freshVar 2 ∉ (joiningBody callee).vars)
  obtain ⟨short, long, first, second, levels⟩ := (agree plain).2 (implied sat)
  have listed : caller.freshVar 2 ∈ ((joiningCaller caller).union instantiated).vars :=
    ConstraintSet.mem_vars_union.mpr (Or.inl (by decide +kernel))
  exact ⟨signature, mapping, instantiated, short, long, signed, mapped, answered, first, second,
    levels _ listed⟩

end FlowTyping
