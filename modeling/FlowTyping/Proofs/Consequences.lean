import FlowTyping.Proofs.Minimization
import FlowTyping.Proofs.Projection
import Mathlib.Logic.Function.Basic

namespace FlowTyping

variable {K : LevelLattice Level} {cs : ConstraintSet} {σ : Valuation} {onto : VarSet}
variable {n : Operand} {c : Flow} {v : TypeVar} {x : Value}

/-- A literal of the lattice or one of some variables. -/
def Operand.Within (K : LevelLattice Level) (onto : VarSet) : Operand → Prop
  | .literal l => (Operand.literal l).Known K
  | .var v => v ∈ onto

instance (K : LevelLattice Level) (onto : VarSet) : DecidablePred (Operand.Within K onto)
  | .literal l => inferInstanceAs (Decidable ((Operand.literal l).Known K))
  | .var v => inferInstanceAs (Decidable (v ∈ onto))

theorem Operand.Within.known (within : n.Within K onto) : n.Known K := by
  cases n with
  | literal l => exact within
  | var v => trivial

theorem Retained.within (retained : Retained K cs onto n) : n.Within K onto := by
  cases n with
  | literal l => exact retained
  | var v => exact retained.2

/-- What lies within some variables is retained unless it is a variable not mentioned. -/
theorem Operand.Within.retained_or (within : n.Within K onto) :
    Retained K cs onto n ∨ ∃ v, n = .var v ∧ v ∉ cs.vars := by
  cases n with
  | literal l => exact Or.inl within
  | var v =>
    by_cases mentioned : v ∈ cs.vars
    · exact Or.inl ⟨mentioned, within⟩
    · exact Or.inr ⟨v, rfl, mentioned⟩

namespace ConstraintSet

def scope (K : LevelLattice Level) (onto : VarSet) : List Operand :=
  onto.toList.map Operand.var ++
    K.elements.map (fun l => Operand.literal (.level l)) ++ [.literal .dyn]

theorem mem_scope : n ∈ scope K onto ↔ n.Within K onto := by
  simp only [scope, List.mem_append, List.mem_map, List.mem_singleton]
  rcases n with (_ | l) | v
  · simp [Operand.Within, Operand.Known]
  · simp [Operand.Within, Operand.Known]
  · simp [Operand.Within, ← SortedSet.mem_def]

/-- The entailed constraints between the operands within some variables. -/
def consequences (K : LevelLattice Level) (cs : ConstraintSet) (onto : VarSet) : ConstraintSet :=
  ofList ((candidates (scope K onto)).filter (Closure.ofSet K cs).entails)

theorem mem_consequences (lawful : K.Lawful) (based : cs.Over K) :
    c ∈ cs.consequences K onto ↔ c.lhs.Within K onto ∧ c.rhs.Within K onto ∧ c.lhs ≠ c.rhs ∧
      ¬ (c.lhs.isLiteral = true ∧ c.rhs.isLiteral = true) ∧ Entails K cs c := by
  rw [consequences, mem_ofList, List.mem_filter, mem_candidates_iff_sides, mem_scope, mem_scope]
  simp only [and_assoc]
  apply and_congr_right
  intro left
  apply and_congr_right
  intro right
  rw [Closure.entails_iff lawful based left.known right.known]

theorem consequences_over (lawful : K.Lawful) (based : cs.Over K) :
    (cs.consequences K onto).Over K := by
  apply over_iff_sides.mpr
  intro c member
  obtain ⟨left, right, _⟩ := (mem_consequences lawful based).mp member
  exact ⟨left.known, right.known⟩

/-- A projection starts from the consequences whose sides it retains. -/
theorem mem_entailedAmong_iff (lawful : K.Lawful) (based : cs.Over K) :
    c ∈ cs.entailedAmong K onto ↔
      c ∈ cs.consequences K onto ∧ Retained K cs onto c.lhs ∧ Retained K cs onto c.rhs := by
  rw [mem_entailedAmong lawful based, mem_consequences lawful based, mem_candidates_iff_sides,
    mem_projectionOperands, mem_projectionOperands]
  constructor
  · intro entailed
    obtain ⟨⟨left, right, apart, mixed⟩, holds⟩ := entailed
    exact ⟨⟨left.within, right.within, apart, mixed, holds⟩, left, right⟩
  · intro consequence
    obtain ⟨⟨_, _, apart, mixed, holds⟩, left, right⟩ := consequence
    exact ⟨⟨left, right, apart, mixed⟩, holds⟩

end ConstraintSet

def IsPublic (K : LevelLattice Level) (cs : ConstraintSet) (n : Operand) : Prop :=
  ∀ σ, Solution K cs σ → n.value σ = .pub

def NotDynamic (K : LevelLattice Level) (cs : ConstraintSet) (n : Operand) : Prop :=
  ∀ σ, Solution K cs σ → n.value σ ≠ .dyn

theorem IsPublic.notDynamic (isPublic : IsPublic K cs n) : NotDynamic K cs n := by
  intro σ solution
  simp [isPublic σ solution]

namespace Value

theorem eq_pub_of_compatible {l : Level} (marker : x.compatible .dyn = true)
    (level : x.compatible (.level l) = true) : x = .pub := by
  cases x with
  | pub => rfl
  | dyn => cases level
  | level _ => cases marker

end Value

theorem Solution.update (solution : Solution K cs σ) (free : v ∉ cs.vars) (belongs : x.Belongs K) :
    Solution K cs (Function.update σ v x) := by
  apply solution.congr
  · intro w
    by_cases same : w = v
    · subst same
      rwa [Function.update_self]
    · rw [Function.update_of_ne same]
      exact solution.belongs w
  · intro w mentioned
    have apart : w ≠ v := fun same => free (same ▸ mentioned)
    exact Function.update_of_ne apart x σ

theorem Operand.value_update (apart : n ≠ .var v) :
    n.value (Function.update σ v x) = n.value σ := by
  cases n with
  | literal l => rfl
  | var w =>
    have different : w ≠ v := fun same => apart (congrArg Operand.var same)
    exact Function.update_of_ne different x σ

section Unmentioned

variable (entailed : Entails K cs c) (solution : Solution K cs σ) (free : v ∉ cs.vars)
variable (apart : c.lhs ≠ c.rhs)
include entailed solution free apart

/-- What is entailed of a variable not mentioned holds for every value of it. -/
theorem holds_of_free_rhs (side : c.rhs = .var v) (belongs : x.Belongs K) :
    c.kind.holds K (c.lhs.value σ) x = true := by
  have other : c.lhs ≠ .var v := fun same => apart (same.trans side.symm)
  have held := entailed _ (solution.update free belongs)
  rw [Flow.holds, Operand.value_update other, side] at held
  simpa [Operand.value] using held

theorem holds_of_free_lhs (side : c.lhs = .var v) (belongs : x.Belongs K) :
    c.kind.holds K x (c.rhs.value σ) = true := by
  have other : c.rhs ≠ .var v := fun same => apart (side.trans same.symm)
  have held := entailed _ (solution.update free belongs)
  rw [Flow.holds, Operand.value_update other, side] at held
  simpa [Operand.value] using held

end Unmentioned

section Free

variable (lawful : K.Lawful) (entailed : Entails K cs c) (free : v ∉ cs.vars)
variable (apart : c.lhs ≠ c.rhs)
include lawful entailed free apart

theorem isPublic_of_free_flow (flow : c.kind = .flow) (side : c.rhs = .var v) :
    IsPublic K cs c.lhs := by
  intro σ solution
  have held : ∀ {x : Value}, x.Belongs K → c.kind.holds K (c.lhs.value σ) x = true :=
    holds_of_free_rhs entailed solution free apart side
  rw [flow] at held
  have marker : (Value.dyn).Belongs K := trivial
  have bottom : (Value.level K.bottom).Belongs K := lawful.bottom_mem
  exact Value.eq_pub_of_le (held marker) (held bottom)

theorem false_of_free_source (solution : Solution K cs σ) (flow : c.kind = .flow)
    (side : c.lhs = .var v) : False := by
  have held : ∀ {x : Value}, x.Belongs K → c.kind.holds K x (c.rhs.value σ) = true :=
    holds_of_free_lhs entailed solution free apart side
  rw [flow] at held
  have marker : (Value.dyn).Belongs K := trivial
  have bottom : (Value.level K.bottom).Belongs K := lawful.bottom_mem
  have dynamic := Value.dyn_le_iff.mp (held marker)
  have below := held bottom
  rw [dynamic] at below
  cases below

/-- Only what is public is compatible with a variable not mentioned, whichever side it is. -/
theorem isPublic_of_free_compatible (compatible : c.kind = .compatible) :
    (c.rhs = .var v → IsPublic K cs c.lhs) ∧ (c.lhs = .var v → IsPublic K cs c.rhs) := by
  have marker : (Value.dyn).Belongs K := trivial
  have bottom : (Value.level K.bottom).Belongs K := lawful.bottom_mem
  constructor
  · intro side σ solution
    have held : ∀ {x : Value}, x.Belongs K → c.kind.holds K (c.lhs.value σ) x = true :=
      holds_of_free_rhs entailed solution free apart side
    rw [compatible] at held
    exact Value.eq_pub_of_compatible (held marker) (held bottom)
  · intro side σ solution
    have held : ∀ {x : Value}, x.Belongs K → c.kind.holds K x (c.rhs.value σ) = true :=
      holds_of_free_lhs entailed solution free apart side
    rw [compatible] at held
    apply Value.eq_pub_of_compatible
    · rw [Value.compatible_comm]
      exact held marker
    · rw [Value.compatible_comm]
      exact held bottom

omit lawful in
theorem notDynamic_of_free_implies (implies : c.kind = .implies) (side : c.rhs = .var v) :
    NotDynamic K cs c.lhs := by
  intro σ solution dynamic
  have held := holds_of_free_rhs (x := .pub) entailed solution free apart side trivial
  rw [implies, dynamic] at held
  cases held

omit lawful in
theorem dynamic_of_free_implies (implies : c.kind = .implies) (side : c.lhs = .var v) :
    ∀ σ, Solution K cs σ → c.rhs.value σ = .dyn := by
  intro σ solution
  have held := holds_of_free_lhs (x := .dyn) entailed solution free apart side trivial
  rw [implies] at held
  exact Value.implies_iff.mp held rfl

end Free

end FlowTyping
