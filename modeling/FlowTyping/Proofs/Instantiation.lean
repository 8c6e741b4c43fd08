import FlowTyping.Proofs.Renaming
import FlowTyping.Signature.Guarded

namespace FlowTyping

variable {K : LevelLattice Level} {cs : ConstraintSet}

theorem mapM_ok {α β ε : Type} {g : α → Except ε β} {l : List α}
    (accepted : ∀ x ∈ l, ∃ y, g x = .ok y) :
    ∃ mapped, l.mapM g = .ok mapped ∧ ∀ y, y ∈ mapped ↔ ∃ x ∈ l, g x = .ok y := by
  induction l with
  | nil => exact ⟨[], rfl, by simp⟩
  | cons first rest ih =>
    obtain ⟨head, answered⟩ := accepted first (by simp)
    obtain ⟨tail, mapped, members⟩ :=
      ih fun x later => accepted x (List.mem_cons_of_mem first later)
    refine ⟨head :: tail, ?_, ?_⟩
    · rw [List.mapM_cons, answered, mapped]
      rfl
    · intro y
      simp [members, answered, eq_comm]

theorem mapM_eq {α β ε : Type} {g : α → Except ε β} {h : α → β} {l : List α}
    (agrees : ∀ x ∈ l, g x = .ok (h x)) : l.mapM g = .ok (l.map h) := by
  induction l with
  | nil => rfl
  | cons first rest ih =>
    rw [List.mapM_cons, agrees first (by simp),
      ih fun x later => agrees x (List.mem_cons_of_mem first later)]
    rfl

/-- The variables of a call in place of those of the boundary: the arguments for the
parameters below a count, the result for the returned value. -/
def callVar (ns : Namespace) (count : Nat) (args : Table Int TypeVar) (result : TypeVar)
    (v : TypeVar) : TypeVar :=
  if v = ns.ret then result
  else
    match (List.range count).find? (fun i => decide (ns.paramVar i = v)) with
    | some i => (Table.find? args (Int.ofNat i)).getD v
    | none => v

variable {ns : Namespace} {count : Nat} {args : Table Int TypeVar} {result v : TypeVar}

theorem Namespace.paramVar_inj {i j : Nat} : ns.paramVar i = ns.paramVar j ↔ i = j := by
  simp only [paramVar, TypeVar.mk.injEq, true_and]
  exact Int.ofNat_inj

theorem Namespace.paramVar_ne_ret (i : Nat) : ns.paramVar i ≠ ns.ret := by
  simp [paramVar, ret]

/-- The boundary of a unit with a number of parameters. -/
abbrev Signature.boundary (ns : Namespace) (count : Nat) : VarSet :=
  boundaryVars (unitParams ns count) (some ns.ret)

theorem Signature.mem_boundary :
    v ∈ boundary ns count ↔ v = ns.ret ∨ ∃ i < count, v = ns.paramVar i := by
  simp only [boundaryVars, unitParams, SortedSet.mem_ofList, List.mem_append, List.mem_map,
    List.mem_range, Option.toList_some, List.mem_singleton]
  constructor
  · rintro (⟨_, ⟨i, below, rfl⟩, rfl⟩ | rfl)
    · exact Or.inr ⟨i, below, rfl⟩
    · exact Or.inl rfl
  · rintro (rfl | ⟨i, below, rfl⟩)
    · exact Or.inr rfl
    · exact Or.inl ⟨_, ⟨i, below, rfl⟩, rfl⟩

theorem callVar_ret : callVar ns count args result ns.ret = result := if_pos rfl

theorem callVar_param {i : Nat} (below : i < count)
    (supplied : Table.find? args (Int.ofNat i) = some v) :
    callVar ns count args result (ns.paramVar i) = v := by
  rw [callVar, if_neg (Namespace.paramVar_ne_ret i)]
  cases found : (List.range count).find? (fun j => decide (ns.paramVar j = ns.paramVar i)) with
  | none =>
    have missing := List.find?_eq_none.mp found i (List.mem_range.mpr below)
    simp at missing
  | some j =>
    have same : ns.paramVar j = ns.paramVar i := by simpa using List.find?_some found
    obtain rfl := Namespace.paramVar_inj.mp same
    show (Table.find? args (Int.ofNat j)).getD _ = v
    rw [supplied]
    rfl

theorem callVar_inner (inner : v ∉ Signature.boundary ns count) :
    callVar ns count args result v = v := by
  rw [Signature.mem_boundary, not_or] at inner
  obtain ⟨notRet, notParam⟩ := inner
  rw [callVar, if_neg notRet]
  cases found : (List.range count).find? (fun i => decide (ns.paramVar i = v)) with
  | none => rfl
  | some i =>
    have below := List.mem_range.mp (List.mem_of_find?_eq_some found)
    have same : ns.paramVar i = v := by simpa using List.find?_some found
    exact absurd ⟨i, below, same.symm⟩ notParam

namespace Signature

/-- A mapping supplies the arguments of a call for the parameters and its result for the
returned value. -/
structure Supplies (count : Nat) (args : Table Int TypeVar) (result : TypeVar)
    (mapping : Table Symbol TypeVar) : Prop where
  argument : ∀ i < count, ∃ v, Table.find? args (Int.ofNat i) = some v ∧
    Table.find? mapping (.param (Int.ofNat i)) = some v
  returned : Table.find? mapping .ret = some result

theorem callMapping_ok (given : ∀ i < count, ∃ v, Table.find? args (Int.ofNat i) = some v) :
    ∃ mapping, callMapping count args (some result) = .ok mapping ∧
      Supplies count args result mapping := by
  refine ⟨(List.range count).map (fun i => (.param (Int.ofNat i),
    (Table.find? args (Int.ofNat i)).getD result)) ++ [(.ret, result)], ?_, ⟨?_, ?_⟩⟩
  · unfold callMapping
    rw [mapM_eq (h := fun i => (.param (Int.ofNat i),
      (Table.find? args (Int.ofNat i)).getD result))]
    · rfl
    · intro i listed
      obtain ⟨v, found⟩ := given i (List.mem_range.mp listed)
      simp only [found, Option.getD_some]
  · intro i below
    obtain ⟨v, found⟩ := given i below
    refine ⟨v, found, Table.find?_of_mem ?_ ?_⟩
    · apply List.mem_append_left
      exact List.mem_map.mpr ⟨i, List.mem_range.mpr below, by rw [found]; rfl⟩
    · intro other listed
      rcases List.mem_append.mp listed with early | last
      · obtain ⟨j, _, same⟩ := List.mem_map.mp early
        obtain ⟨symbol, rfl⟩ := Prod.mk.inj same
        obtain rfl := Int.ofNat_inj.mp (Symbol.param.inj symbol)
        rw [found]
        rfl
      · simp at last
  · apply Table.find?_of_mem (by simp)
    intro other listed
    rcases List.mem_append.mp listed with early | last
    · obtain ⟨j, _, same⟩ := List.mem_map.mp early
      cases same
    · simpa using last

theorem find?_unitParams {i : Nat} (below : i < count) :
    Table.find? (unitParams ns count) (ns.paramVar i) = some (some (Int.ofNat i)) := by
  apply Table.find?_of_mem
  · exact List.mem_map.mpr ⟨i, List.mem_range.mpr below, rfl⟩
  · intro other listed
    obtain ⟨j, _, same⟩ := List.mem_map.mp listed
    obtain ⟨left, rfl⟩ := Prod.mk.inj same
    rw [Namespace.paramVar_inj.mp left]

theorem symbolOf_ret :
    symbolOf (unitParams ns count) (some ns.ret) (.var ns.ret) = .ok .ret := if_pos rfl

theorem symbolOf_param {i : Nat} (below : i < count) :
    symbolOf (unitParams ns count) (some ns.ret) (.var (ns.paramVar i)) =
      .ok (.param (Int.ofNat i)) := by
  have apart : some ns.ret ≠ some (ns.paramVar i) := by
    simpa using (Namespace.paramVar_ne_ret i).symm
  rw [symbolOf, if_neg apart, find?_unitParams below]
  rfl

variable {mapping : Table Symbol TypeVar} {params : Table TypeVar (Option Int)}
variable {ret : Option TypeVar} {f : TypeVar → TypeVar} {n : Operand}

/-- An operand survives the way through symbols, renamed. -/
def Carried (params : Table TypeVar (Option Int)) (ret : Option TypeVar)
    (mapping : Table Symbol TypeVar) (f : TypeVar → TypeVar) (n : Operand) : Prop :=
  ∃ symbol, symbolOf params ret n = .ok symbol ∧ operandOf mapping symbol = .ok (n.rename f)

theorem carried_of_retained (supplies : Supplies count args result mapping)
    (retained : Retained K cs (boundary ns count) n) :
    Carried (unitParams ns count) (some ns.ret) mapping (callVar ns count args result) n := by
  cases n with
  | literal l => exact ⟨.literal l, rfl, rfl⟩
  | var v =>
    rcases mem_boundary.mp retained.2 with rfl | ⟨i, below, rfl⟩
    · refine ⟨.ret, symbolOf_ret, ?_⟩
      simp [operandOf, supplies.returned, Operand.rename, callVar_ret]
    · obtain ⟨v, given, found⟩ := supplies.argument i below
      refine ⟨.param (Int.ofNat i), symbolOf_param below, ?_⟩
      simp only [operandOf, found, Operand.rename, callVar_param below given]

/-- The constraint of a call that a symbolic one stands for. -/
def instanceOf (mapping : Table Symbol TypeVar) (c : SymbolConstraint) :
    Except SymbolError Flow := do
  let lhs ← operandOf mapping c.lhs
  let rhs ← operandOf mapping c.rhs
  pure (Constraint.make lhs c.kind rhs)

theorem instantiate_eq (s : Signature) :
    s.instantiate mapping =
      (s.constraints.toList.mapM (instanceOf mapping)).map ConstraintSet.ofList := rfl

/-- The order of the sides of a symbolic compatibility makes no difference to its instance. -/
theorem instanceOf_make {a b : Symbol} {x y : Operand} (first : operandOf mapping a = .ok x)
    (second : operandOf mapping b = .ok y) (kind : Kind) :
    instanceOf mapping (Constraint.make a kind b) = .ok (Constraint.make x kind y) := by
  rw [instanceOf, Constraint.make_kind]
  rcases Constraint.make_sides a b kind with ⟨lhs, rhs⟩ | ⟨rfl, lhs, rhs⟩
  · rw [lhs, rhs, first, second]
    rfl
  · rw [lhs, rhs, first, second, Constraint.make_compatible_comm x y]
    rfl

/-- A constraint between operands that survive the way through symbols survives it too. -/
theorem instanceOf_symbolize {c : Flow} (lhs : Carried params ret mapping f c.lhs)
    (rhs : Carried params ret mapping f c.rhs) :
    ∃ s, symbolize params ret c = .ok s ∧ instanceOf mapping s = .ok (c.rename f) := by
  obtain ⟨a, symbolA, operandA⟩ := lhs
  obtain ⟨b, symbolB, operandB⟩ := rhs
  refine ⟨Constraint.make a c.kind b, ?_, instanceOf_make operandA operandB c.kind⟩
  rw [symbolize, symbolA, symbolB]
  rfl

/-- Instantiating what was restated over symbols is renaming. -/
theorem instantiate_restate {projected : ConstraintSet}
    (carried : ∀ c ∈ projected, Carried params ret mapping f c.lhs ∧
      Carried params ret mapping f c.rhs) (effects : Effects) :
    ∃ constraints, restate params ret projected = .ok constraints ∧
      instantiate ⟨constraints, effects⟩ mapping = .ok (projected.rename f) := by
  have symbols := fun c (member : c ∈ projected.toList) =>
    instanceOf_symbolize (carried c member).1 (carried c member).2
  obtain ⟨restated, mapped, members⟩ := mapM_ok fun c member =>
    (symbols c member).imp fun _ both => both.1
  have sources : ∀ s ∈ (SortedSet.ofList restated : SymbolConstraints).toList, ∃ c ∈ projected,
      instanceOf mapping s = .ok (c.rename f) := by
    intro s listed
    obtain ⟨c, member, made⟩ := (members s).mp (SortedSet.mem_ofList.mp listed)
    obtain ⟨s', made', instantiated⟩ := symbols c member
    obtain rfl := Except.ok.inj (made.symm.trans made')
    exact ⟨c, member, instantiated⟩
  obtain ⟨constraints, instantiated, instances⟩ := mapM_ok fun s listed =>
    (sources s listed).elim fun _ both => ⟨_, both.2⟩
  have same : ConstraintSet.ofList constraints = projected.rename f := by
    apply ConstraintSet.ext_mem
    intro d
    rw [ConstraintSet.mem_ofList, instances, ConstraintSet.mem_rename]
    constructor
    · rintro ⟨s, listed, answered⟩
      obtain ⟨c, member, renamed⟩ := sources s listed
      exact ⟨c, member, Except.ok.inj (answered.symm.trans renamed)⟩
    · rintro ⟨c, member, rfl⟩
      obtain ⟨s, made, renamed⟩ := symbols c member
      exact ⟨s, SortedSet.mem_ofList.mpr ((members s).mpr ⟨c, member, made⟩), renamed⟩
  refine ⟨SortedSet.ofList restated, ?_, ?_⟩
  · rw [restate, mapped]
    rfl
  · rw [instantiate_eq, instantiated, ← same]
    rfl

end Signature

/-- The constraints of a boundary are what the projection onto it restates to. -/
theorem Domain.boundaryConstraints_of_restate {domain : Domain} (built : domain.Built)
    (based : cs.Over domain.lattice) {params : Table TypeVar (Option Int)} {ret : Option TypeVar}
    {constraints : SymbolConstraints}
    (restated : Signature.restate params ret
      (cs.project domain.lattice (Signature.boundaryVars params ret)) = .ok constraints) :
    domain.boundaryConstraints cs params ret = .ok constraints := by
  rw [Domain.boundaryConstraints, Checked.project_eq built based]
  show Except.mapError _ (Signature.restate _ _ _) = _
  rw [restated]
  rfl

theorem Domain.signatureOfUnit_of_restate {domain : Domain} (built : domain.Built)
    (based : cs.Over domain.lattice) {constraints : SymbolConstraints}
    (restated : Signature.restate (Signature.unitParams ns count) (some ns.ret)
      (cs.project domain.lattice (Signature.boundary ns count)) = .ok constraints)
    (effects : Effects) :
    (domain.signatureOfUnit cs ns count effects).1 = .ok ⟨constraints, effects⟩ := by
  show Except.map _ (domain.boundaryConstraints cs _ _) = _
  rw [Domain.boundaryConstraints_of_restate built based restated]
  rfl

end FlowTyping
