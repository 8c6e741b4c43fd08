import Mathlib.Data.List.Nodup
import FlowTyping.Proofs.Instantiation

namespace FlowTyping

/-- Every variable of a table stands for a parameter, different variables for different ones,
and the returned value has a variable of its own, if any. -/
structure BoundaryTable (params : Table TypeVar (Option Int)) (ret : Option TypeVar) : Prop where
  once : (params.map Prod.fst).Nodup
  positioned : ∀ entry ∈ params, ∃ position, entry.2 = some position
  injective : ∀ v w position, (v, some position) ∈ params → (w, some position) ∈ params → v = w
  apart : ∀ v, ret = some v → v ∉ params.map Prod.fst

/-- The variables of a boundary, by their symbols. -/
def inverseMapping (params : Table TypeVar (Option Int)) (ret : Option TypeVar) :
    Table Symbol TypeVar :=
  params.filterMap (fun entry => entry.2.map (fun position => (.param position, entry.1))) ++
    ret.toList.map (fun v => (.ret, v))

variable {K : LevelLattice Level} {cs : ConstraintSet} {params : Table TypeVar (Option Int)}
variable {ret : Option TypeVar} {v : TypeVar} {position : Int} {symbol : Symbol} {n : Operand}
variable {mapping : Table Symbol TypeVar} {c : SymbolConstraint} {e : SymbolError}

theorem mem_inverseMapping :
    (symbol, v) ∈ inverseMapping params ret ↔
      (∃ position, (v, some position) ∈ params ∧ symbol = .param position) ∨
        ret = some v ∧ symbol = .ret := by
  simp only [inverseMapping, List.mem_append, List.mem_filterMap, List.mem_map, Option.mem_toList]
  constructor
  · intro listed
    rcases listed with ⟨⟨w, place⟩, member, same⟩ | ⟨w, given, same⟩
    · obtain ⟨position, here, pair⟩ := Option.map_eq_some_iff.mp same
      dsimp only at here
      subst here
      obtain ⟨symbols, vars⟩ := Prod.mk.inj pair
      subst symbols vars
      exact Or.inl ⟨position, member, rfl⟩
    · obtain ⟨symbols, vars⟩ := Prod.mk.inj same
      subst symbols vars
      exact Or.inr ⟨given, rfl⟩
  · intro either
    rcases either with ⟨position, member, same⟩ | ⟨given, same⟩
    · exact Or.inl ⟨_, member, by rw [same]; rfl⟩
    · exact Or.inr ⟨v, given, by rw [same]⟩

namespace BoundaryTable

theorem find?_params (table : BoundaryTable params ret) (member : (v, some position) ∈ params) :
    Table.find? params v = some (some position) := by
  apply Table.find?_of_mem member
  intro other listed
  have same := List.inj_on_of_nodup_map table.once listed member rfl
  exact (Prod.mk.inj same).2

theorem find?_param (table : BoundaryTable params ret) (member : (v, some position) ∈ params) :
    Table.find? (inverseMapping params ret) (.param position) = some v := by
  apply Table.find?_of_mem (mem_inverseMapping.mpr (Or.inl ⟨position, member, rfl⟩))
  intro other listed
  rcases mem_inverseMapping.mp listed with ⟨position', there, same⟩ | ⟨_, same⟩
  · obtain rfl := Symbol.param.inj same
    exact table.injective _ _ _ there member
  · cases same

theorem find?_ret (given : ret = some v) :
    Table.find? (inverseMapping params ret) .ret = some v := by
  apply Table.find?_of_mem (mem_inverseMapping.mpr (Or.inr ⟨given, rfl⟩))
  intro other listed
  rcases mem_inverseMapping.mp listed with ⟨_, _, same⟩ | ⟨given', _⟩
  · cases same
  · exact Option.some.inj (given'.symm.trans given)

/-- What a projection onto the boundary retains survives the way through symbols unchanged. -/
theorem carried (table : BoundaryTable params ret)
    (retained : Retained K cs (Signature.boundaryVars params ret) n) :
    Signature.Carried params ret (inverseMapping params ret) id n := by
  cases n with
  | literal l => exact ⟨.literal l, rfl, rfl⟩
  | var v =>
    have listed := SortedSet.mem_ofList.mp retained.2
    by_cases returned : ret = some v
    · refine ⟨.ret, if_pos returned, ?_⟩
      simp [Signature.operandOf, find?_ret returned]
    · have key : v ∈ params.map Prod.fst := by
        rcases List.mem_append.mp listed with there | there
        · exact there
        · exact absurd (Option.mem_toList.mp there) returned
      obtain ⟨⟨w, place⟩, member, same⟩ := List.mem_map.mp key
      obtain ⟨position, here⟩ := table.positioned _ member
      dsimp only at same here
      subst same here
      refine ⟨.param position, ?_, ?_⟩
      · rw [Signature.symbolOf, if_neg returned, table.find?_params member]
        rfl
      · simp [Signature.operandOf, table.find?_param member]

end BoundaryTable

/-- If a member of a list is refused, mapping the list is refused as one of its members is. -/
theorem mapM_error {α β ε : Type} {g : α → Except ε β} {l : List α} {x : α} (member : x ∈ l)
    {e : ε} (refused : g x = .error e) : ∃ y ∈ l, ∃ e', g y = .error e' ∧ l.mapM g = .error e' := by
  induction l with
  | nil => cases member
  | cons first rest ih =>
    cases answer : g first with
    | error e' =>
      refine ⟨first, by simp, e', answer, ?_⟩
      rw [List.mapM_cons, answer]
      rfl
    | ok head =>
      have later : x ∈ rest := by
        rcases List.mem_cons.mp member with same | there
        · subst same
          rw [answer] at refused
          cases refused
        · exact there
      obtain ⟨y, listed, e', failed, whole⟩ := ih later
      refine ⟨y, List.mem_cons_of_mem first listed, e', failed, ?_⟩
      rw [List.mapM_cons, answer, whole]
      rfl

/-- A symbol other than a literal that a mapping lacks. -/
structure Symbol.Missing (mapping : Table Symbol TypeVar) (symbol : Symbol) : Prop where
  named : ∀ l, symbol ≠ .literal l
  absent : Table.find? mapping symbol = none

namespace Signature

theorem operandOf_of_named (named : ∀ l, symbol ≠ .literal l) :
    operandOf mapping symbol = (Table.find? mapping symbol).elim (.error (.noVariable symbol))
      (fun v => .ok (.var v)) := by
  cases symbol with
  | literal l => exact absurd rfl (named l)
  | param position =>
    simp only [operandOf]
    cases Table.find? mapping (.param position) <;> rfl
  | ret =>
    simp only [operandOf]
    cases Table.find? mapping .ret <;> rfl

theorem operandOf_eq_error_iff :
    operandOf mapping symbol = .error e ↔ symbol.Missing mapping ∧ e = .noVariable symbol := by
  constructor
  · intro refused
    have named : ∀ l, symbol ≠ .literal l := by
      intro l same
      subst same
      cases refused
    rw [operandOf_of_named named] at refused
    cases found : Table.find? mapping symbol with
    | none =>
      rw [found] at refused
      exact ⟨⟨named, found⟩, (Except.error.inj refused).symm⟩
    | some v =>
      rw [found] at refused
      cases refused
  · intro missing
    rw [operandOf_of_named missing.1.named, missing.1.absent, missing.2]
    rfl

theorem instanceOf_error (refused : instanceOf mapping c = .error e) :
    ∃ s ∈ [c.lhs, c.rhs], s.Missing mapping ∧ e = .noVariable s := by
  unfold instanceOf at refused
  cases left : operandOf mapping c.lhs with
  | error e' =>
    rw [left] at refused
    obtain rfl := Except.error.inj refused
    exact ⟨c.lhs, by simp, operandOf_eq_error_iff.mp left⟩
  | ok lhs =>
    cases right : operandOf mapping c.rhs with
    | error e' =>
      rw [left, right] at refused
      obtain rfl := Except.error.inj refused
      exact ⟨c.rhs, by simp, operandOf_eq_error_iff.mp right⟩
    | ok rhs =>
      rw [left, right] at refused
      cases refused

theorem instanceOf_of_missing (side : symbol ∈ [c.lhs, c.rhs]) (missing : symbol.Missing mapping) :
    ∃ e, instanceOf mapping c = .error e := by
  have refused := operandOf_eq_error_iff.mpr ⟨missing, rfl⟩
  unfold instanceOf
  cases left : operandOf mapping c.lhs with
  | error e => exact ⟨e, rfl⟩
  | ok lhs =>
    cases right : operandOf mapping c.rhs with
    | error e => exact ⟨e, rfl⟩
    | ok rhs =>
      have either : symbol = c.lhs ∨ symbol = c.rhs := by simpa using side
      rcases either with same | same
      · rw [same, left] at refused
        cases refused
      · rw [same, right] at refused
        cases refused

theorem mem_symbols {constraints : SymbolConstraints} :
    symbol ∈ SymbolConstraints.symbols constraints ↔
      ∃ c ∈ constraints.toList, symbol ∈ [c.lhs, c.rhs] := by
  rw [SymbolConstraints.symbols, SortedSet.mem_ofList, List.mem_flatMap]

theorem instantiate_of_missing {s : Signature}
    (occurs : symbol ∈ SymbolConstraints.symbols s.constraints)
    (missing : symbol.Missing mapping) :
    ∃ other ∈ SymbolConstraints.symbols s.constraints, other.Missing mapping ∧
      s.instantiate mapping = .error (.noVariable other) := by
  obtain ⟨c, member, side⟩ := mem_symbols.mp occurs
  obtain ⟨_, refused⟩ := instanceOf_of_missing side missing
  obtain ⟨d, listed, e, failed, whole⟩ := mapM_error member refused
  obtain ⟨other, side', missing', same⟩ := instanceOf_error failed
  refine ⟨other, mem_symbols.mpr ⟨d, listed, side'⟩, missing', ?_⟩
  rw [instantiate_eq, whole, ← same]
  rfl

end Signature

/-- Symbolisation and instantiation are inverse: a boundary at which different variables stand for
different parameters is restated without an error, the inverse mapping gives exactly the projection
back, and a mapping that lacks a symbol that occurs is refused for such a symbol. -/
theorem symbols_read_backwards {domain : Domain} (built : domain.Built)
    (based : cs.Over domain.lattice) (table : BoundaryTable params ret) (effects : Effects) :
    ∃ constraints projected,
      domain.boundaryConstraints cs params ret = .ok constraints ∧
      Checked.project domain cs (Signature.boundaryVars params ret) = .ok projected ∧
      Signature.instantiate ⟨constraints, effects⟩ (inverseMapping params ret) = .ok projected ∧
      ∀ mapping : Table Symbol TypeVar, ∀ symbol ∈ SymbolConstraints.symbols constraints,
        (∀ l, symbol ≠ .literal l) → Table.find? mapping symbol = none →
        ∃ other ∈ SymbolConstraints.symbols constraints, Table.find? mapping other = none ∧
          Signature.instantiate ⟨constraints, effects⟩ mapping = .error (.noVariable other) := by
  have carried : ∀ c ∈ cs.project domain.lattice (Signature.boundaryVars params ret),
      Signature.Carried params ret (inverseMapping params ret) id c.lhs ∧
        Signature.Carried params ret (inverseMapping params ret) id c.rhs := by
    intro c member
    obtain ⟨left, right⟩ := cs.project_retained built.lawful based c member
    exact ⟨table.carried left, table.carried right⟩
  obtain ⟨constraints, restated, instantiated⟩ := Signature.instantiate_restate carried effects
  rw [ConstraintSet.rename_id] at instantiated
  refine ⟨constraints, _, Domain.boundaryConstraints_of_restate built based restated,
    Checked.project_eq built based _, instantiated, ?_⟩
  intro mapping symbol occurs named absent
  obtain ⟨other, listed, missing, refused⟩ :=
    Signature.instantiate_of_missing (s := ⟨constraints, effects⟩) occurs ⟨named, absent⟩
  exact ⟨other, listed, missing.absent, refused⟩

/-- A set whose compatibilities are ordered one way between variables and the other way between
the symbols of a boundary that counts its parameters down. -/
def crossedBody (ns : Namespace) : ConstraintSet :=
  let p (position : Nat) : Operand := .var (ns.paramVar position)
  .ofList [.make (p 0) .compatible (p 1), .make (.var ns.ret) .compatible (p 0),
    .make (p 1) .flow (.var (ns.freshVar 0)), .make (.var (ns.freshVar 0)) .flow (.var ns.ret)]

theorem symbols_read_backwards_crossed :
    let ns := Namespace.create 1 "x"
    let params : Table TypeVar (Option Int) :=
      [(ns.paramVar 0, some 5), (ns.paramVar 1, some 2)]
    ∃ constraints projected,
      Domain.diamond.boundaryConstraints (crossedBody ns) params (some ns.ret) = .ok constraints ∧
      Checked.project Domain.diamond (crossedBody ns)
        (Signature.boundaryVars params (some ns.ret)) = .ok projected ∧
      Signature.instantiate ⟨constraints, .empty⟩ (inverseMapping params (some ns.ret)) =
        .ok projected ∧
      ∃ other, Signature.instantiate ⟨constraints, .empty⟩ [(.param 5, ns.ret)] =
        .error (.noVariable other) := by
  intro ns params
  have based : (crossedBody ns).Over Domain.diamond.lattice := by decide +kernel
  have table : BoundaryTable params (some ns.ret) := by
    constructor
    · decide +kernel
    · intro entry member
      have either : entry = (ns.paramVar 0, some 5) ∨ entry = (ns.paramVar 1, some 2) := by
        simpa [params] using member
      rcases either with same | same
      · exact ⟨5, by rw [same]⟩
      · exact ⟨2, by rw [same]⟩
    · intro v w position first second
      simp only [params, List.mem_cons, Prod.mk.injEq, Option.some.injEq, List.not_mem_nil,
        or_false] at first second
      rcases first with ⟨left, place⟩ | ⟨left, place⟩ <;>
        rcases second with ⟨right, place'⟩ | ⟨right, place'⟩
      · exact left.trans right.symm
      · omega
      · omega
      · exact left.trans right.symm
    · intro v given
      obtain rfl := Option.some.inj given
      decide +kernel
  obtain ⟨constraints, projected, restated, retained, instantiated, refused⟩ :=
    symbols_read_backwards Domain.diamond_built based table .empty
  have occurs : Symbol.param 2 ∈ SymbolConstraints.symbols constraints := by
    have computed : (Domain.diamond.boundaryConstraints (crossedBody ns) params
        (some ns.ret)).toOption.any (fun found => Symbol.param 2 ∈ found.symbols) = true := by
      decide +kernel
    rw [restated] at computed
    exact of_decide_eq_true computed
  obtain ⟨other, _, _, failed⟩ := refused [(.param 5, ns.ret)] _ occurs (by simp) rfl
  exact ⟨constraints, projected, restated, retained, instantiated, other, failed⟩

end FlowTyping
