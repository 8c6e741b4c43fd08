import FlowTyping.Proofs.Admission
import FlowTyping.Proofs.GuardedAgreement

namespace FlowTyping

variable {K : LevelLattice Level} {cs : ConstraintSet} {σ : Valuation} {n : Operand}
variable {dyn static pub : List Operand}

theorem Operand.exists_level_of_not_known (unknown : ¬ n.Known K) :
    ∃ l, n = .literal (.level l) := by
  cases n with
  | var v => exact absurd trivial unknown
  | literal l =>
    cases l with
    | dyn => exact absurd trivial unknown
    | level l => exact ⟨l, rfl⟩

theorem Operand.known_of_value (other : ∀ l, n.value σ ≠ .level l) : n.Known K := by
  by_cases known : n.Known K
  · exact known
  · obtain ⟨l, rfl⟩ := exists_level_of_not_known known
    exact absurd rfl (other l)

namespace Closure

/-- The choices that the lattice knows. -/
def knownAmong (K : LevelLattice Level) (chosen : List Operand) : List Operand :=
  chosen.filter (fun n => decide (n.Known K))

theorem mem_knownAmong {chosen : List Operand} :
    n ∈ knownAmong K chosen ↔ n ∈ chosen ∧ n.Known K := by
  rw [knownAmong, List.mem_filter, decide_eq_true_eq]

/-- A level that the lattice does not know makes nothing else a level. -/
theorem mem_madeStatic_knownAmong (based : cs.Over K) :
    n ∈ (ofSet K cs).madeStatic (knownAmong K static) ↔
      n ∈ (ofSet K cs).madeStatic static ∧ n.Known K := by
  simp only [mem_madeStatic, mem_knownAmong]
  constructor
  · intro made
    rcases made with ⟨mentioned, lower⟩ | ⟨d, ⟨chosen, known⟩, flows⟩
    · exact ⟨Or.inl ⟨mentioned, lower⟩, ConstraintSet.over_iff.mp based n mentioned⟩
    · exact ⟨Or.inr ⟨d, chosen, flows⟩, known_of_chain based known flows⟩
  · intro made
    obtain ⟨mentioned | ⟨d, chosen, flows⟩, known⟩ := made
    · exact Or.inl mentioned
    · exact Or.inr ⟨d, ⟨chosen, flows.known based known⟩, flows⟩

theorem turnsStatic_knownAmong (based : cs.Over K) :
    (ofSet K cs).turnsStatic (knownAmong K static) = (ofSet K cs).turnsStatic static := by
  funext n
  apply Bool.eq_iff_iff.mpr
  simp only [turnsStatic, Bool.or_eq_true, decide_eq_true_eq, mem_madeStatic_knownAmong based]
  by_cases known : n.Known K
  · simp only [known, and_true]
  · obtain ⟨l, rfl⟩ := Operand.exists_level_of_not_known known
    simp [Operand.isStatic]

theorem turnsDyn_known (based : cs.Over K) (dynKnown : ∀ n ∈ dyn, n.Known K)
    (turns : (ofSet K cs).turnsDyn dyn n = true) : n.Known K := by
  rw [turnsDyn, Bool.or_eq_true, decide_eq_true_eq, Operand.isDyn_iff] at turns
  rcases turns with marker | made
  · subst marker
    trivial
  · exact madeDyn_known based dynKnown n made

theorem admits_knownAmong (based : cs.Over K) (dynKnown : ∀ n ∈ dyn, n.Known K) :
    (ofSet K cs).admits dyn (knownAmong K static) pub = (ofSet K cs).admits dyn static pub := by
  have apart : ((ofSet K cs).madeStatic (knownAmong K static)).any ((ofSet K cs).turnsDyn dyn) =
      ((ofSet K cs).madeStatic static).any ((ofSet K cs).turnsDyn dyn) := by
    apply Bool.eq_iff_iff.mpr
    simp only [List.any_eq_true, mem_madeStatic_knownAmong based]
    constructor
    · intro clash
      obtain ⟨n, ⟨made, _⟩, turns⟩ := clash
      exact ⟨n, made, turns⟩
    · intro clash
      obtain ⟨n, made, turns⟩ := clash
      exact ⟨n, ⟨made, turnsDyn_known based dynKnown turns⟩, turns⟩
  rw [admits_eq, admits_eq, turnsStatic_knownAmong based, apart]

theorem known_of_admits (admitted : (ofSet K cs).admits dyn static pub = true) :
    (∀ n ∈ dyn, n.Known K) ∧ ∀ n ∈ pub, n.Known K := by
  obtain ⟨_, dynApart, _, empty, _⟩ := admits_eq_true.mp admitted
  constructor
  · intro n chosen
    by_cases known : n.Known K
    · exact known
    · have made : n ∈ (ofSet K cs).madeDyn dyn := mem_madeDyn.mpr (Or.inr ⟨n, chosen, .refl⟩)
      have level := Operand.exists_level_of_not_known known
      exact absurd (dynApart n made) (levelsInto_iff.mpr (Or.inl level))
  · intro n chosen
    by_cases known : n.Known K
    · exact known
    · have level := Operand.exists_level_of_not_known known
      exact absurd (least_eq_pub.mp (empty n chosen)).2 (levelsInto_iff.mpr (Or.inl level))

/-- Some solution makes the operands dynamic, levels and public as asked exactly when the
closure admits it, whether the lattice knows them or not. -/
theorem admits_iff_solution (lawful : K.Lawful) (based : cs.Over K) :
    (ofSet K cs).admits dyn static pub = true ↔
      ∃ σ, Solution K cs σ ∧ (∀ n ∈ dyn, n.value σ = .dyn) ∧
        (∀ n ∈ static, ∃ l, n.value σ = .level l) ∧ ∀ n ∈ pub, n.value σ = .pub := by
  have staticKnown : ∀ n ∈ knownAmong K static, n.Known K := fun n member =>
    (mem_knownAmong.mp member).2
  constructor
  · intro admitted
    obtain ⟨dynKnown, pubKnown⟩ := known_of_admits admitted
    rw [← admits_knownAmong based dynKnown] at admitted
    obtain ⟨σ, solution, dynamic, levels, empty⟩ :=
      (admits_iff lawful based dynKnown staticKnown pubKnown).mp admitted
    refine ⟨σ, solution, dynamic, ?_, empty⟩
    intro n chosen
    by_cases known : n.Known K
    · exact levels n (mem_knownAmong.mpr ⟨chosen, known⟩)
    · obtain ⟨l, rfl⟩ := Operand.exists_level_of_not_known known
      exact ⟨l, rfl⟩
  · intro solved
    obtain ⟨σ, solution, dynamic, levels, empty⟩ := solved
    have dynKnown : ∀ n ∈ dyn, n.Known K := by
      intro n chosen
      apply Operand.known_of_value (σ := σ)
      simp [dynamic n chosen]
    have pubKnown : ∀ n ∈ pub, n.Known K := by
      intro n chosen
      apply Operand.known_of_value (σ := σ)
      simp [empty n chosen]
    rw [← admits_knownAmong based dynKnown]
    apply (admits_iff lawful based dynKnown staticKnown pubKnown).mpr
    refine ⟨σ, solution, dynamic, ?_, empty⟩
    intro n chosen
    exact levels n (mem_knownAmong.mp chosen).1

end Closure

/-- Conditional solving is exact: over every domain a set has a closure, and for all lists of
operands the closure admits that they be dynamic, levels and public exactly when some solution
makes them so. -/
theorem conditional_solving_exact {domain : Domain} (built : domain.Built)
    (based : cs.Over domain.lattice) :
    ∃ closure, Checked.closure domain cs = .ok closure ∧ ∀ dyn static pub : List Operand,
      (closure.admits dyn static pub = true ↔
        ∃ σ, Solution domain.lattice cs σ ∧ (∀ n ∈ dyn, n.value σ = .dyn) ∧
          (∀ n ∈ static, ∃ l, n.value σ = .level l) ∧ ∀ n ∈ pub, n.value σ = .pub) := by
  refine ⟨_, Checked.closure_eq built based, ?_⟩
  intro dyn static pub
  exact Closure.admits_iff_solution built.lawful based

/-- Two variables flow into a third, with which a fourth is compatible. -/
def confluenceSample : ConstraintSet :=
  let x (index : Int) : Operand := .var ⟨1, .fresh, index⟩
  .ofList [.make (x 0) .flow (x 2), .make (x 1) .flow (x 2), .make (x 3) .compatible (x 2)]

/-- What is dynamic and what is a level meet behind the two variables, also across the
compatibility; next to a dynamic one the other can be public. -/
theorem conditional_solving_exact_confluence :
    let K := Domain.diamond.lattice
    let x (index : Int) : Operand := .var ⟨1, .fresh, index⟩
    Domain.diamond.Built ∧ confluenceSample.Over K ∧
      (∃ σ, Solution K confluenceSample σ ∧ (x 0).value σ = .dyn ∧ (x 1).value σ = .pub) ∧
      (¬ ∃ σ l, Solution K confluenceSample σ ∧ (x 0).value σ = .dyn ∧
        (x 1).value σ = .level l) ∧
      ¬ ∃ σ l, Solution K confluenceSample σ ∧ (x 0).value σ = .dyn ∧
        (x 3).value σ = .level l := by
  intro K x
  have built := Domain.diamond_built
  have based : confluenceSample.Over K := by decide +kernel
  obtain ⟨closure, closed, admits⟩ := conditional_solving_exact built based
  obtain rfl := Except.ok.inj ((Checked.closure_eq built based).symm.trans closed)
  have clash : ∀ n ∈ [x 1, x 3],
      ¬ (Closure.ofSet K confluenceSample).admits [x 0] [n] [] = true := by decide +kernel
  have refused : ∀ n ∈ [x 1, x 3],
      ¬ ∃ σ l, Solution K confluenceSample σ ∧ (x 0).value σ = .dyn ∧ n.value σ = .level l := by
    intro n chosen solved
    obtain ⟨σ, l, solution, dynamic, level⟩ := solved
    apply clash n chosen
    apply (admits [x 0] [n] []).mpr
    exact ⟨σ, solution, by simpa using dynamic, by simpa using ⟨l, level⟩, by simp⟩
  refine ⟨built, based, ?_, refused (x 1) (by simp), refused (x 3) (by simp)⟩
  obtain ⟨σ, solution, dynamic, _, empty⟩ := (admits [x 0] [] [x 1]).mp (by decide +kernel)
  exact ⟨σ, solution, dynamic _ (by simp), empty _ (by simp)⟩

end FlowTyping
