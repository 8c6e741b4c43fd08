import FlowTyping.Proofs.Projection

namespace FlowTyping

variable {K : LevelLattice Level} {cs : ConstraintSet} {σ τ : Valuation} {f : TypeVar → TypeVar}

def Operand.rename (f : TypeVar → TypeVar) : Operand → Operand
  | .literal l => .literal l
  | .var v => .var (f v)

def Flow.rename (f : TypeVar → TypeVar) (c : Flow) : Flow :=
  .make (c.lhs.rename f) c.kind (c.rhs.rename f)

def ConstraintSet.rename (f : TypeVar → TypeVar) (cs : ConstraintSet) : ConstraintSet :=
  ofList (cs.toList.map (Flow.rename f))

@[simp] theorem Operand.value_rename (n : Operand) :
    (n.rename f).value σ = n.value (fun v => σ (f v)) := by
  cases n <;> rfl

@[simp] theorem Flow.holds_rename (c : Flow) :
    Flow.holds K σ (c.rename f) = Flow.holds K (fun v => σ (f v)) c := by
  rw [Flow.rename, Flow.holds_make, Operand.value_rename, Operand.value_rename]
  rfl

theorem Flow.rename_make (a b : Operand) (kind : Kind) :
    Flow.rename f (Constraint.make a kind b) = .make (a.rename f) kind (b.rename f) := by
  rw [Flow.rename, Constraint.make_kind]
  rcases Constraint.make_sides a b kind with ⟨lhs, rhs⟩ | ⟨compatible, lhs, rhs⟩
  · rw [lhs, rhs]
  · rw [lhs, rhs, compatible]
    exact Constraint.make_compatible_comm _ _

@[simp] theorem Operand.rename_id (n : Operand) : n.rename id = n := by
  cases n <;> rfl

@[simp] theorem Flow.rename_id (c : Flow) : c.rename id = c := by
  simp [Flow.rename]

/-- A valuation can be read under other names that keep its variables apart. -/
theorem Valuation.exists_renamed {vars : VarSet}
    (apart : ∀ v ∈ vars, ∀ w ∈ vars, f v = f w → v = w) (belongs : ∀ v, (σ v).Belongs K) :
    ∃ τ : Valuation, (∀ v, (τ v).Belongs K) ∧ ∀ v ∈ vars, τ (f v) = σ v := by
  refine ⟨fun w => match vars.toList.find? (fun v => decide (f v = w)) with
    | some v => σ v
    | none => .pub, ?_, ?_⟩
  · intro w
    dsimp only
    split
    · exact belongs _
    · trivial
  · intro v member
    dsimp only
    split
    · rename_i found equal
      have same : f found = f v := by simpa using List.find?_some equal
      rw [apart found (List.mem_of_find?_eq_some equal) v member same]
    · rename_i missing
      have none := List.find?_eq_none.mp missing v member
      simp at none

namespace ConstraintSet

theorem mem_rename {c : Flow} : c ∈ cs.rename f ↔ ∃ d ∈ cs, c = d.rename f := by
  rw [rename, mem_ofList, List.mem_map]
  constructor
  · rintro ⟨d, member, rfl⟩
    exact ⟨d, member, rfl⟩
  · rintro ⟨d, member, rfl⟩
    exact ⟨d, member, rfl⟩

theorem rename_id : cs.rename id = cs := by
  apply ext_mem
  intro c
  simp [mem_rename]

theorem rename_holds_iff :
    (∀ c ∈ cs.rename f, Flow.holds K σ c = true) ↔
      ∀ c ∈ cs, Flow.holds K (fun v => σ (f v)) c = true := by
  constructor
  · intro holds c member
    rw [← Flow.holds_rename]
    exact holds _ (mem_rename.mpr ⟨c, member, rfl⟩)
  · intro holds c member
    obtain ⟨d, there, rfl⟩ := mem_rename.mp member
    rw [Flow.holds_rename]
    exact holds d there

theorem mentioned_rename {n : Operand} :
    Mentioned (cs.rename f) n ↔ ∃ m, Mentioned cs m ∧ n = m.rename f := by
  have sides : ∀ c : Flow, (c.rename f).lhs = n ∨ (c.rename f).rhs = n ↔
      c.lhs.rename f = n ∨ c.rhs.rename f = n := by
    intro c
    rw [Flow.rename]
    rcases Constraint.make_sides (c.lhs.rename f) (c.rhs.rename f) c.kind with
      ⟨lhs, rhs⟩ | ⟨_, lhs, rhs⟩
    · rw [lhs, rhs]
    · rw [lhs, rhs]
      exact Or.comm
  constructor
  · rintro ⟨_, member, side⟩
    obtain ⟨c, there, rfl⟩ := mem_rename.mp member
    rcases (sides c).mp side with rfl | rfl
    · exact ⟨c.lhs, ⟨c, there, Or.inl rfl⟩, rfl⟩
    · exact ⟨c.rhs, ⟨c, there, Or.inr rfl⟩, rfl⟩
  · rintro ⟨m, ⟨c, there, side⟩, rfl⟩
    refine ⟨c.rename f, mem_rename.mpr ⟨c, there, rfl⟩, (sides c).mpr ?_⟩
    rcases side with rfl | rfl
    · exact Or.inl rfl
    · exact Or.inr rfl

theorem mem_vars_rename {v : TypeVar} : v ∈ (cs.rename f).vars ↔ ∃ w ∈ cs.vars, v = f w := by
  simp only [mem_vars, mentioned_rename]
  constructor
  · rintro ⟨m, mentioned, same⟩
    cases m with
    | literal l => cases same
    | var w => exact ⟨w, mentioned, Operand.var.inj same⟩
  · rintro ⟨w, mentioned, rfl⟩
    exact ⟨.var w, mentioned, rfl⟩

theorem Over.rename (based : cs.Over K) : (cs.rename f).Over K := by
  apply over_iff.mpr
  intro n mentioned
  obtain ⟨m, there, rfl⟩ := mentioned_rename.mp mentioned
  cases m with
  | literal l => exact over_iff.mp based _ there
  | var v => trivial

end ConstraintSet

namespace Solution

theorem of_rename (solution : Solution K (cs.rename f) σ) : Solution K cs (fun v => σ (f v)) :=
  ⟨fun v => solution.belongs (f v), ConstraintSet.rename_holds_iff.mp solution.holds⟩

theorem rename (solution : Solution K cs σ) (belongs : ∀ v, (τ v).Belongs K)
    (agree : ∀ v ∈ cs.vars, τ (f v) = σ v) : Solution K (cs.rename f) τ := by
  refine ⟨belongs, ConstraintSet.rename_holds_iff.mpr ?_⟩
  exact (solution.congr (fun v => belongs (f v)) agree).holds

end Solution

end FlowTyping
