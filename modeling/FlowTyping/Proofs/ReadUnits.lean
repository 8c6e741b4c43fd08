import FlowTyping.CommandLine.Run
import FlowTyping.Proofs.CrossCheck
import FlowTyping.Proofs.EqualSignatures
import FlowTyping.Proofs.MisshapenDocuments
import FlowTyping.Proofs.PowersetCarrier

namespace FlowTyping

variable {domain : Domain} {space next : Namespace} {text : String}

theorem Domain.Built.mem_of_parse (built : domain.Built) {l : Level}
    (read : domain.parse text = .ok l) : l ∈ domain.lattice.elements := by
  cases built with
  | twoPoint =>
    simp only [Domain.parse, TwoPoint.parse] at read
    split at read
    · cases read
      exact List.mem_cons_self
    · split at read
      · cases read
        exact List.mem_cons_of_mem _ List.mem_cons_self
      · cases read
  | powerset accepted => exact Powerset.mem_elements_of_parse read
  | @hasse elements covers diagram accepted =>
    simp only [Domain.parse, Hasse.parse] at read
    split at read
    · rename_i known
      cases read
      have named : Text.strip text ∈ diagram.names := List.contains_iff_mem.mp known
      simp [Domain.lattice, Hasse.lattice, Hasse.elements, named, Decidable.em]
    · cases read

namespace Namespace

theorem readOperand_known (built : domain.Built) {n : Operand}
    (read : space.readOperand domain text = (.ok n, next)) : n.Known domain.lattice := by
  simp only [readOperand] at read
  split at read
  · cases read
    trivial
  split at read
  · cases read
    trivial
  split at read
  · cases read
    trivial
  split at read
  · cases read
    trivial
  · cases read
  · split at read
    · cases read
    split at read
    · rename_i level parsed
      cases read
      exact built.mem_of_parse parsed
    · split at read
      · cases read
        trivial
      · cases read

theorem readConstraint_known (built : domain.Built) {c : Flow}
    (read : space.readConstraint domain text = (.ok c, next)) :
    c.lhs.Known domain.lattice ∧ c.rhs.Known domain.lattice := by
  simp only [readConstraint] at read
  split at read
  · cases read
  · rename_i left kind right cut
    rcases first : space.readOperand domain left with ⟨_ | lhs, between⟩
    · simp only [first] at read
      cases read
    rcases second : between.readOperand domain right with ⟨_ | rhs, last⟩
    · simp only [first, second] at read
      cases read
    simp only [first, second] at read
    cases read
    have knownLhs := readOperand_known built first
    have knownRhs := readOperand_known built second
    rcases Constraint.make_sides lhs rhs kind with ⟨left, right⟩ | ⟨_, left, right⟩
    · rw [left, right]
      exact ⟨knownLhs, knownRhs⟩
    · rw [left, right]
      exact ⟨knownRhs, knownLhs⟩

theorem readConstraints_known (built : domain.Built) {lines : List String} {cs : List Flow}
    (read : space.readConstraints domain lines = (.ok cs, next)) :
    ∀ c ∈ cs, c.lhs.Known domain.lattice ∧ c.rhs.Known domain.lattice := by
  induction lines generalizing space cs with
  | nil =>
    cases read
    intro c none
    cases none
  | cons line rest ih =>
    rw [readConstraints] at read
    split at read
    · exact ih read
    rcases first : space.readConstraint domain line with ⟨_ | c, between⟩
    · simp only [first] at read
      cases read
    rcases others : between.readConstraints domain rest with ⟨_ | ds, last⟩
    · simp only [first, others] at read
      cases read
    simp only [first, others] at read
    cases read
    intro d member
    rcases List.mem_cons.mp member with same | later
    · exact same ▸ readConstraint_known built first
    · exact ih others d later

end Namespace

/-- What two readings one after the other read, the second has read with what the first has. -/
theorem exists_of_bind_eq_ok {ε α β : Type} {reading : Except ε α} {f : α → Except ε β} {b : β}
    (read : (reading >>= f) = .ok b) : ∃ a, reading = .ok a ∧ f a = .ok b := by
  cases reading with
  | error e => cases read
  | ok a => exact ⟨a, rfl, read⟩

theorem UnitFile.readLines_known {file : UnitFile} {cs : List Flow} (built : domain.Built)
    (taken : file.readLines domain space = .ok (cs, next)) :
    ∀ c ∈ cs, c.lhs.Known domain.lattice ∧ c.rhs.Known domain.lattice := by
  unfold readLines at taken
  split at taken
  · cases taken
  · rename_i constraints last lines
    split at taken
    · cases taken
    · cases taken
      exact Namespace.readConstraints_known built lines

theorem UnitFile.read_over {file : UnitFile} {unit : AnalysedUnit} (built : domain.Built)
    (read : file.read domain space = .ok unit) : unit.constraints.Over domain.lattice := by
  obtain ⟨⟨constraints, between⟩, taken, read⟩ := exists_of_bind_eq_ok read
  obtain ⟨entries, _, read⟩ := exists_of_bind_eq_ok read
  obtain ⟨tags, _, read⟩ := exists_of_bind_eq_ok read
  obtain ⟨names, _, read⟩ := exists_of_bind_eq_ok read
  obtain ⟨fixed, _, read⟩ := exists_of_bind_eq_ok read
  have listed : unit.constraints = .ofList constraints := by
    rw [← Except.ok.inj read]
  rw [listed]
  apply ConstraintSet.over_iff_sides.mpr
  intro c member
  exact readLines_known built taken c (ConstraintSet.mem_ofList.mp member)

theorem Config.domain_built {config : Config} (configured : config.domain = .ok domain) :
    domain.Built := by
  unfold Config.domain at configured
  split at configured
  · cases configured
    exact .twoPoint
  · cases accepted : Powerset.ofPrincipals config.principals with
    | error e => simp [accepted, Except.map] at configured
    | ok sets =>
      simp only [accepted, Except.map, Except.ok.injEq] at configured
      exact configured ▸ .powerset accepted
  · cases accepted : Hasse.ofCovers config.elements config.covers with
    | error e => simp [accepted, Except.map] at configured
    | ok diagram =>
      simp only [accepted, Except.map, Except.ok.injEq] at configured
      exact configured ▸ .hasse accepted

/-- Without a verdict known beforehand, the solver finds an assignment if there is a solution,
and else a reason why there is none, with the conflicts of the set. -/
theorem Domain.solve_cases {cs : ConstraintSet} (built : domain.Built)
    (based : cs.Over domain.lattice) (tags : TagMap) (fixed : List TypeVar) {check : CrossCheck}
    (own : ∀ sat, check ≠ .given sat) :
    ((∃ σ, Solution domain.lattice cs σ) ∧
      ∃ assignment, domain.solve cs tags fixed check = .ok (.satisfiable assignment)) ∨
    ((¬ ∃ σ, Solution domain.lattice cs σ) ∧
      ∃ reason, domain.solve cs tags fixed check =
        .ok (.unsatisfiable reason (cs.conflicts domain.lattice tags))) := by
  have solvable := Closure.isSat_iff built.lawful based
  obtain ⟨verdict, asked, agrees⟩ : ∃ verdict, check.verdict? domain cs = .ok verdict ∧
      ∀ sat ∈ verdict, sat = cs.isSat domain.lattice := by
    cases check with
    | off => exact ⟨none, rfl, by simp⟩
    | given sat => exact absurd rfl (own sat)
    | search =>
      refine ⟨some (Search.isSat domain.lattice cs), ?_, ?_⟩
      · rw [CrossCheck.verdict?, Checked.values_eq built based]
        rfl
      · intro sat same
        rw [← Option.some.inj same]
        exact Bool.eq_iff_iff.mpr (Search.isSat_iff.trans solvable.symm)
  rw [Domain.solve_eq built based tags fixed asked agrees, ← solvable, Closure.isSat]
  cases (Closure.ofSet domain.lattice cs).reason? with
  | none => exact Or.inl ⟨rfl, _, rfl⟩
  | some reason => exact Or.inr ⟨by simp, reason, rfl⟩

theorem Signature.ofUnit_ok {cs : ConstraintSet} (built : domain.Built)
    (based : cs.Over domain.lattice) (ns : Namespace) (count : Nat) (effects : Effects) :
    ∃ signature, (Signature.ofUnit domain.lattice cs ns count effects).1 = .ok signature := by
  have restated : Signature.restate (Signature.unitParams ns count) (some ns.ret)
      (cs.project domain.lattice (Signature.boundary ns count)) = .ok _ :=
    Signature.restate_eq (ConstraintSet.project_within built.lawful based)
  refine ⟨⟨(cs.project domain.lattice (Signature.boundary ns count)).symbolic, effects⟩, ?_⟩
  show Except.map _ (Signature.restate _ _ (cs.project _ (Signature.boundary ns count))) = _
  rw [restated]
  rfl

end FlowTyping
