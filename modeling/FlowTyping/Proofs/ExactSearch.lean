import FlowTyping.Proofs.FlowRelation
import FlowTyping.Semantics.Search

namespace FlowTyping

theorem Value.mem_all {K : LevelLattice Level} {x : Value} : x ∈ Value.all K ↔ x.Belongs K := by
  cases x <;> simp [Value.all, Value.Belongs]

namespace Search

variable {K : LevelLattice Level} {σ : Valuation} {options result : Options} {n m : Operand}
  {x : Value} {vars : List TypeVar} {constraints : List Flow}

theorem mem_restrict {keep : Value → Bool} :
    x ∈ valuesOf (restrict options n keep) m ↔
      x ∈ valuesOf options m ∧ ∀ v, n = .var v → m = .var v → keep x = true := by
  cases n with
  | literal l => simp [restrict]
  | var v =>
    cases m with
    | literal l => simp [valuesOf]
    | var w =>
      simp only [restrict, valuesOf, Operand.var.injEq]
      induction options with
      | nil => simp
      | cons entry rest ih =>
        obtain ⟨u, values⟩ := entry
        by_cases here : w = u
        · subst here
          by_cases same : w = v
          · subst same
            simp
          · simp [same]
        · have apart : (w == u) = false := by simpa using here
          by_cases same : u = v
          · subst same
            simpa [List.lookup_cons, apart] using ih
          · simpa [List.lookup_cons, apart, same] using ih

/-- The options hold the value of every variable of a list. -/
def Covers (options : Options) (vars : List TypeVar) (σ : Valuation) : Prop :=
  ∀ v ∈ vars, σ v ∈ valuesOf options (.var v)

/-- The variables of a constraint are all in a list. -/
def Within (vars : List TypeVar) (c : Flow) : Prop :=
  ∀ v, c.lhs = .var v ∨ c.rhs = .var v → v ∈ vars

theorem Covers.value_mem (covers : Covers options vars σ) (within : ∀ v, n = .var v → v ∈ vars) :
    n.value σ ∈ valuesOf options n := by
  cases n with
  | literal l => simp [valuesOf, Operand.value]
  | var v => exact covers v (within v rfl)

theorem Covers.restrict (covers : Covers options vars σ) (keep : Value → Bool)
    (kept : keep (n.value σ) = true) : Covers (restrict options n keep) vars σ := by
  intro v member
  refine mem_restrict.mpr ⟨covers v member, ?_⟩
  rintro w rfl same
  cases same
  exact kept

theorem Covers.revise (covers : Covers options vars σ) {c : Flow} (within : Within vars c)
    (holds : Flow.holds K σ c = true) : Covers (revise K options c) vars σ := by
  have right : c.rhs.value σ ∈ valuesOf options c.rhs :=
    covers.value_mem fun v same => within v (Or.inr same)
  have narrowed := covers.restrict (n := c.lhs)
    (fun a => (valuesOf options c.rhs).any (c.kind.holds K a))
    (List.any_eq_true.mpr ⟨_, right, holds⟩)
  have left := narrowed.value_mem (n := c.lhs) fun v same => within v (Or.inl same)
  exact narrowed.restrict _ (List.any_eq_true.mpr ⟨_, left, holds⟩)

theorem Covers.propagate (covers : Covers options vars σ)
    (within : ∀ c ∈ constraints, Within vars c)
    (holds : ∀ c ∈ constraints, Flow.holds K σ c = true) (rounds : Nat) :
    Covers (propagate K constraints rounds options) vars σ := by
  have round : ∀ (l : List Flow) (options : Options), (∀ c ∈ l, c ∈ constraints) →
      Covers options vars σ → Covers (l.foldl (Search.revise K) options) vars σ := by
    intro l
    induction l with
    | nil => exact fun _ _ covers => covers
    | cons c rest ih =>
      intro options among covers
      have member := among c (by simp)
      exact ih _ (fun d later => among d (List.mem_cons_of_mem c later))
        (covers.revise (within c member) (holds c member))
  induction rounds generalizing options with
  | zero => exact covers
  | succ rounds ih =>
    have next := round constraints options (fun _ member => member) covers
    unfold Search.propagate
    dsimp only
    split
    · exact ih next
    · exact next

theorem Covers.isOpen (covers : Covers options vars σ) {c : Flow} (within : Within vars c)
    (holds : Flow.holds K σ c = true) : isOpen K options c = true := by
  have left := covers.value_mem (n := c.lhs) fun v same => within v (Or.inl same)
  have right := covers.value_mem (n := c.rhs) fun v same => within v (Or.inr same)
  exact List.any_eq_true.mpr ⟨_, left, List.any_eq_true.mpr ⟨_, right, holds⟩⟩

theorem solveFrom_complete {fixing : List TypeVar} (covers : Covers options vars σ)
    (listed : ∀ v ∈ fixing, v ∈ vars) (within : ∀ c ∈ constraints, Within vars c)
    (holds : ∀ c ∈ constraints, Flow.holds K σ c = true) :
    (solveFrom K constraints fixing options).isSome = true := by
  have allOpen : ∀ {options : Options}, Covers options vars σ →
      constraints.all (Search.isOpen K options) = true := by
    intro options covers
    exact List.all_eq_true.mpr fun c member => covers.isOpen (within c member) (holds c member)
  induction fixing generalizing options with
  | nil => simp [solveFrom, allOpen covers]
  | cons v rest ih =>
    have narrowed := covers.propagate within holds (openCount options)
    have fixed := narrowed.restrict (n := .var v) (fun other => decide (other = σ v))
      (by simp [Operand.value])
    have later := ih fixed fun w member => listed w (List.mem_cons_of_mem v member)
    simp only [solveFrom, allOpen narrowed, ↓reduceIte]
    rw [List.findSome?_isSome_iff]
    exact ⟨σ v, narrowed v (listed v (by simp)), later⟩

theorem mem_revise {c : Flow} (member : x ∈ valuesOf (revise K options c) m) :
    x ∈ valuesOf options m :=
  (mem_restrict.mp (mem_restrict.mp member).1).1

theorem mem_propagate {rounds : Nat}
    (member : x ∈ valuesOf (propagate K constraints rounds options) m) :
    x ∈ valuesOf options m := by
  have round : ∀ (l : List Flow) (options : Options),
      x ∈ valuesOf (l.foldl (revise K) options) m → x ∈ valuesOf options m := by
    intro l
    induction l with
    | nil => exact fun _ there => there
    | cons c rest ih => exact fun options there => mem_revise (ih _ there)
  induction rounds generalizing options with
  | zero => exact member
  | succ rounds ih =>
    unfold propagate at member
    dsimp only at member
    split at member
    · exact round constraints options (ih member)
    · exact round constraints options member

/-- What the search returns is narrower than its start, leaves the variables it fixed at
most one value, and leaves every constraint open. -/
theorem solveFrom_sound {fixing : List TypeVar}
    (found : solveFrom K constraints fixing options = some result) :
    (∀ m x, x ∈ valuesOf result m → x ∈ valuesOf options m) ∧
      (∀ v ∈ fixing, ∃ value, ∀ x ∈ valuesOf result (.var v), x = value) ∧
      ∀ c ∈ constraints, isOpen K result c = true := by
  induction fixing generalizing options with
  | nil =>
    simp only [solveFrom, Option.ite_none_right_eq_some, Option.some.injEq] at found
    obtain ⟨allOpen, rfl⟩ := found
    exact ⟨fun _ _ member => member, by simp, List.all_eq_true.mp allOpen⟩
  | cons v rest ih =>
    simp only [solveFrom, Option.ite_none_right_eq_some] at found
    obtain ⟨value, _, solved⟩ := List.exists_of_findSome?_eq_some found.2
    obtain ⟨narrower, single, allOpen⟩ := ih solved
    refine ⟨?_, ?_, allOpen⟩
    · intro m x member
      exact mem_propagate (mem_restrict.mp (narrower m x member)).1
    · intro w member
      rcases List.mem_cons.mp member with rfl | later
      · refine ⟨value, ?_⟩
        intro x there
        simpa using (mem_restrict.mp (narrower _ x there)).2 w rfl rfl
      · exact single w later

/-- The first value left to each variable. -/
def chosen (options : Options) : Valuation := fun v => (valuesOf options (.var v)).headD .pub

theorem eq_chosen (single : ∀ v, n = .var v → ∃ value, ∀ y ∈ valuesOf options n, y = value)
    (member : x ∈ valuesOf options n) : x = n.value (chosen options) := by
  cases n with
  | literal l => exact List.mem_singleton.mp member
  | var v =>
    obtain ⟨value, only⟩ := single v rfl
    rw [only x member]
    show value = (valuesOf options (.var v)).headD .pub
    cases left : valuesOf options (.var v) with
    | nil => simp [left] at member
    | cons first others => exact (only first (by simp [left])).symm

theorem chosen_belongs (inside : ∀ v, ∀ y ∈ valuesOf options (.var v), y ∈ Value.all K)
    (v : TypeVar) : (chosen options v).Belongs K := by
  unfold chosen
  cases left : valuesOf options (.var v) with
  | nil => trivial
  | cons first others => exact Value.mem_all.mp (inside v first (by simp [left]))

/-- The search finds values exactly when there is a solution. -/
theorem isSat_iff {cs : ConstraintSet} : isSat K cs = true ↔ ∃ σ, Solution K cs σ := by
  have start : ∀ v, valuesOf (cs.vars.toList.map (fun v => (v, Value.all K))) (.var v) =
      if v ∈ cs.vars.toList then Value.all K else [] := by
    intro v
    rw [valuesOf, lookup_tabulated (fun _ => Value.all K)]
    split <;> rfl
  have within : ∀ c ∈ cs.toList, Within cs.vars.toList c := by
    intro c member v side
    exact ConstraintSet.mem_vars.mpr ⟨c, member, side⟩
  rw [isSat, model?, Option.isSome_map]
  constructor
  · intro success
    obtain ⟨result, found⟩ := Option.isSome_iff_exists.mp success
    obtain ⟨narrower, single, allOpen⟩ := solveFrom_sound found
    refine ⟨chosen result, chosen_belongs ?_, ?_⟩
    · intro v y member
      have initial := narrower _ y member
      rw [start v] at initial
      split at initial
      · exact initial
      · simp at initial
    · intro c member
      obtain ⟨a, left, partner⟩ := List.any_eq_true.mp (allOpen c member)
      obtain ⟨b, right, holds⟩ := List.any_eq_true.mp partner
      have fixed : ∀ n, c.lhs = n ∨ c.rhs = n → ∀ v, n = .var v →
          ∃ value, ∀ y ∈ valuesOf result n, y = value := by
        rintro _ side v rfl
        exact single v (within c member v side)
      rw [Flow.holds, ← eq_chosen (fixed c.lhs (Or.inl rfl)) left,
        ← eq_chosen (fixed c.rhs (Or.inr rfl)) right]
      exact holds
  · rintro ⟨σ, solution⟩
    refine solveFrom_complete ?_ (fun _ member => member) within solution.holds
    intro v member
    rw [start v, if_pos member]
    exact Value.mem_all.mpr (solution.belongs v)

end Search

end FlowTyping
