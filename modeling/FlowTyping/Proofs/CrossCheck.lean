import FlowTyping.Proofs.ExactSearch
import FlowTyping.Proofs.GuardedAgreement
import FlowTyping.Proofs.Satisfiability
import FlowTyping.Solver.Guarded
import Mathlib.Data.List.Basic

/-!
The finite formula of a set, and why no correct decision of it can contradict the graph.
Values are numbered by their places in the list of all values; each kind of constraint is
the table of the pairs of places that it allows. A model of the formula gives every
variable a place in range so that each constraint finds its pair in its table. Models and
solutions are the same thing, hence the verdict of the closure is the verdict of anything
that decides the formula.
-/

namespace FlowTyping

variable {K : LevelLattice Level} {cs : ConstraintSet} {domain : Domain}

/-- The pairs of places that a kind of constraint allows. -/
def Kind.table (K : LevelLattice Level) (kind : Kind) : List (Nat × Nat) :=
  let values := Value.all K
  let places := List.range values.length
  places.flatMap (fun i => (places.filter (fun j =>
    match values[i]?, values[j]? with
    | some a, some b => kind.holds K a b
    | _, _ => false)).map (fun j => (i, j)))

/-- The place that stands for an operand: the place of a literal, the choice for a variable. -/
def Operand.place? (K : LevelLattice Level) (choice : TypeVar → Nat) : Operand → Option Nat
  | .literal l => Value.index? K l
  | .var v => some (choice v)

/-- A choice of places satisfies the formula of a set: the places of its variables are in
range, and the places of the sides of each constraint are a pair of its table. -/
structure FormulaModel (K : LevelLattice Level) (cs : ConstraintSet) (choice : TypeVar → Nat) :
    Prop where
  inRange : ∀ v ∈ cs.vars, choice v < (Value.all K).length
  allowed : ∀ c ∈ cs, ∃ i j, c.lhs.place? K choice = some i ∧ c.rhs.place? K choice = some j ∧
    (i, j) ∈ c.kind.table K

theorem Kind.mem_table {kind : Kind} {i j : Nat} :
    (i, j) ∈ kind.table K ↔ ∃ a b, (Value.all K)[i]? = some a ∧ (Value.all K)[j]? = some b ∧
      kind.holds K a b = true := by
  simp only [table, List.mem_flatMap, List.mem_map, List.mem_filter, List.mem_range,
    Prod.mk.injEq]
  constructor
  · rintro ⟨i, rangeI, j, ⟨rangeJ, holds⟩, rfl, rfl⟩
    rw [List.getElem?_eq_getElem rangeI, List.getElem?_eq_getElem rangeJ] at holds
    exact ⟨_, _, List.getElem?_eq_getElem rangeI, List.getElem?_eq_getElem rangeJ, holds⟩
  · rintro ⟨a, b, foundA, foundB, holds⟩
    obtain ⟨rangeI, _⟩ := List.getElem?_eq_some_iff.mp foundA
    obtain ⟨rangeJ, _⟩ := List.getElem?_eq_some_iff.mp foundB
    refine ⟨i, rangeI, j, ⟨rangeJ, ?_⟩, rfl, rfl⟩
    rw [foundA, foundB]
    exact holds

theorem Value.getElem?_of_index? {l : Literal} {i : Nat} (found : Value.index? K l = some i) :
    (Value.all K)[i]? = some (Value.ofLiteral l) := by
  have member := List.mem_of_getLast? found
  simpa using (List.mem_filter.mp member).2

theorem Value.index?_isSome {l : Literal} (belongs : (Value.ofLiteral l).Belongs K) :
    (Value.index? K l).isSome = true := by
  obtain ⟨i, range, found⟩ := List.mem_iff_getElem.mp (Value.mem_all.mpr belongs)
  have listed : i ∈ (List.range (Value.all K).length).filter
      (fun i => decide ((Value.all K)[i]? = some (Value.ofLiteral l))) := by
    apply List.mem_filter.mpr
    exact ⟨List.mem_range.mpr range, by simp [List.getElem?_eq_getElem range, found]⟩
  rw [Value.index?, List.getLast?_isSome]
  exact List.ne_nil_of_mem listed

/-- The value at a place, public where there is none. -/
def Value.atPlace (K : LevelLattice Level) (place : Nat) : Value :=
  ((Value.all K)[place]?).getD .pub

theorem Value.atPlace_belongs (place : Nat) : (Value.atPlace K place).Belongs K := by
  unfold Value.atPlace
  cases found : (Value.all K)[place]? with
  | none => trivial
  | some x => exact Value.mem_all.mp (List.mem_of_getElem? found)

theorem Operand.value_of_place? {choice : TypeVar → Nat} {n : Operand} {i : Nat} {x : Value}
    (placed : n.place? K choice = some i) (found : (Value.all K)[i]? = some x) :
    n.value (fun v => Value.atPlace K (choice v)) = x := by
  cases n with
  | literal l => exact Option.some.inj ((Value.getElem?_of_index? placed).symm.trans found)
  | var v =>
    obtain rfl := Option.some.inj placed
    simp [Operand.value, Value.atPlace, found]

/-- The formula of a set has a model exactly when the set has a solution. -/
theorem exists_formulaModel_iff (based : cs.Over K) :
    (∃ choice, FormulaModel K cs choice) ↔ ∃ σ, Solution K cs σ := by
  constructor
  · rintro ⟨choice, model⟩
    refine ⟨fun v => Value.atPlace K (choice v), fun v => Value.atPlace_belongs _, ?_⟩
    intro c member
    obtain ⟨i, j, placedLhs, placedRhs, listed⟩ := model.allowed c member
    obtain ⟨a, b, foundA, foundB, holds⟩ := Kind.mem_table.mp listed
    rw [Flow.holds, Operand.value_of_place? placedLhs foundA,
      Operand.value_of_place? placedRhs foundB]
    exact holds
  · rintro ⟨σ, solution⟩
    have place : ∀ v, (Value.all K)[(Value.all K).idxOf (σ v)]? = some (σ v) := by
      intro v
      exact List.getElem?_idxOf (Value.mem_all.mpr (solution.belongs v))
    have placed : ∀ n, Mentioned cs n → ∃ i,
        n.place? K (fun v => (Value.all K).idxOf (σ v)) = some i ∧
        (Value.all K)[i]? = some (n.value σ) := by
      intro n mentioned
      have known := ConstraintSet.over_iff.mp based n mentioned
      cases n with
      | literal l =>
        have belongs : (Value.ofLiteral l).Belongs K := known.belongs solution.belongs
        obtain ⟨i, found⟩ := Option.isSome_iff_exists.mp (Value.index?_isSome belongs)
        exact ⟨i, found, Value.getElem?_of_index? found⟩
      | var v => exact ⟨_, rfl, place v⟩
    refine ⟨fun v => (Value.all K).idxOf (σ v), ?_, ?_⟩
    · intro v _
      exact List.idxOf_lt_length_iff.mpr (Value.mem_all.mpr (solution.belongs v))
    · intro c member
      obtain ⟨i, placedLhs, foundLhs⟩ := placed c.lhs ⟨c, member, Or.inl rfl⟩
      obtain ⟨j, placedRhs, foundRhs⟩ := placed c.rhs ⟨c, member, Or.inr rfl⟩
      exact ⟨i, j, placedLhs, placedRhs,
        Kind.mem_table.mpr ⟨_, _, foundLhs, foundRhs, solution.holds c member⟩⟩

theorem Checked.values_eq (built : domain.Built) (based : cs.Over domain.lattice) :
    Checked.values domain cs = .ok () := by
  have placed : ∀ l ∈ cs.literals, (Value.index? domain.lattice l).isSome = true := by
    intro l member
    apply Value.index?_isSome
    cases l with
    | dyn => trivial
    | level l => exact based l member
  rw [Checked.values, built.elements_eq]
  simp only [bind, Except.bind, pure, Except.pure]
  rw [if_neg]
  simp only [List.any_eq_true, not_exists, not_and]
  intro l member
  simp [Option.isNone_iff_eq_none, Option.isSome_iff_ne_none.mp (placed l member)]

theorem Domain.solve_eq (built : domain.Built) (based : cs.Over domain.lattice) (tags : TagMap)
    (fixed : List TypeVar) {check : CrossCheck} {verdict : Option Bool}
    (asked : check.verdict? domain cs = .ok verdict)
    (agrees : ∀ sat ∈ verdict, sat = cs.isSat domain.lattice) :
    domain.solve cs tags fixed check =
      match (Closure.ofSet domain.lattice cs).reason? with
      | some reason =>
        .ok (.unsatisfiable reason ((Closure.ofSet domain.lattice cs).conflicts tags))
      | none => .ok (.satisfiable ((cs.leastAssignment? domain.lattice fixed).getD .empty)) := by
  have calm : verdict.any (fun sat => sat != (Closure.ofSet domain.lattice cs).isSat) = false := by
    cases verdict with
    | none => rfl
    | some sat =>
      have same : sat = (Closure.ofSet domain.lattice cs).isSat := agrees sat rfl
      simp [same]
  rw [Domain.solve, Checked.closure_eq built based, asked]
  simp only [Except.mapError, bind, Except.bind, calm, Bool.false_eq_true, ↓reduceIte, pure,
    Except.pure]
  rewrite [Checked.leastAssignment_eq built based]
  cases (Closure.ofSet domain.lattice cs).reason? with
  | some reason => rfl
  | none => rfl

/-- The verdict of the closure is exact, and no cross-check that decides the formula of the
set correctly can contradict it: the solver always returns the right verdict. -/
theorem satisfiability_exact (built : domain.Built) (based : cs.Over domain.lattice)
    (tags : TagMap) (fixed : List TypeVar) (check : CrossCheck)
    (decides : ∀ sat, check = .given sat →
      (sat = true ↔ ∃ choice, FormulaModel domain.lattice cs choice)) :
    Checked.closure domain cs = .ok (Closure.ofSet domain.lattice cs) ∧
    (cs.isSat domain.lattice = true ↔ ∃ choice, FormulaModel domain.lattice cs choice) ∧
    ((∃ assignment, domain.solve cs tags fixed check = .ok (.satisfiable assignment)) ↔
      ∃ choice, FormulaModel domain.lattice cs choice) ∧
    ((∃ reason conflicts, domain.solve cs tags fixed check =
        .ok (.unsatisfiable reason conflicts)) ↔
      ¬ ∃ choice, FormulaModel domain.lattice cs choice) := by
  have exact : cs.isSat domain.lattice = true ↔
      ∃ choice, FormulaModel domain.lattice cs choice := by
    rw [exists_formulaModel_iff based]
    exact Closure.isSat_iff built.lawful based
  have asked : ∃ verdict, check.verdict? domain cs = .ok verdict ∧
      ∀ sat ∈ verdict, sat = cs.isSat domain.lattice := by
    cases check with
    | off => exact ⟨none, rfl, by simp⟩
    | given sat =>
      refine ⟨some sat, rfl, ?_⟩
      intro other same
      obtain rfl := Option.some.inj same
      exact Bool.eq_iff_iff.mpr ((decides sat rfl).trans exact.symm)
    | search =>
      refine ⟨some (Search.isSat domain.lattice cs), ?_, ?_⟩
      · rw [CrossCheck.verdict?, Checked.values_eq built based]
        rfl
      · intro other same
        obtain rfl := Option.some.inj same
        apply Bool.eq_iff_iff.mpr
        rw [exact, Search.isSat_iff, exists_formulaModel_iff based]
  obtain ⟨verdict, answered, agrees⟩ := asked
  have solved := Domain.solve_eq built based tags fixed answered agrees
  refine ⟨Checked.closure_eq built based, exact, ?_, ?_⟩
  · rw [← exact, solved, ConstraintSet.isSat, Closure.isSat]
    cases (Closure.ofSet domain.lattice cs).reason? <;> simp
  · rw [← exact, solved, ConstraintSet.isSat, Closure.isSat]
    cases (Closure.ofSet domain.lattice cs).reason? <;> simp

/-- A cycle above one level of the diamond, and a variable that becomes dynamic. -/
def cyclicSample : ConstraintSet :=
  let left : Operand := .literal (.level (.name "left"))
  let x (index : Int) : Operand := .var ⟨1, .fresh, index⟩
  .ofList [.make left .flow (x 0), .make (x 0) .flow (x 1), .make (x 1) .flow (x 0),
    .make (.literal .dyn) .flow (x 2), .make (x 2) .implies (x 3), .make (x 1) .compatible (x 4)]

theorem satisfiability_exact_diamond :
    Domain.diamond.Built ∧ cyclicSample.Over Domain.diamond.lattice ∧
      (∃ choice, FormulaModel Domain.diamond.lattice cyclicSample choice) ∧
      ∃ assignment, Domain.diamond.solve cyclicSample .empty [] (.given true) =
        .ok (.satisfiable assignment) := by
  have based : cyclicSample.Over Domain.diamond.lattice := by decide +kernel
  have found : ∃ choice, FormulaModel Domain.diamond.lattice cyclicSample choice := by
    rw [exists_formulaModel_iff based, ← Search.isSat_iff]
    decide +kernel
  have decided : ∀ sat, CrossCheck.given true = .given sat →
      (sat = true ↔ ∃ choice, FormulaModel Domain.diamond.lattice cyclicSample choice) := by
    rintro sat ⟨⟩
    exact ⟨fun _ => found, fun _ => rfl⟩
  obtain ⟨_, _, solved, _⟩ := satisfiability_exact Domain.diamond_built based .empty []
    (.given true) decided
  exact ⟨Domain.diamond_built, based, found, solved.mpr found⟩

end FlowTyping
