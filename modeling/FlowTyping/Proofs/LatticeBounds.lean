import FlowTyping.Semantics

namespace FlowTyping

namespace LevelLattice

variable {α : Type} {K : LevelLattice α}

def dual (K : LevelLattice α) : LevelLattice α where
  le a b := K.le b a
  lub := K.glb
  glb := K.lub
  top := K.bottom
  bottom := K.top
  elements := K.elements

theorem Lawful.dual (lawful : K.Lawful) : K.dual.Lawful where
  top_mem := lawful.bottom_mem
  bottom_mem := lawful.top_mem
  lub_mem := lawful.glb_mem
  glb_mem := lawful.lub_mem
  refl := lawful.refl
  antisymm a ha b hb below above := lawful.antisymm a ha b hb above below
  trans a ha b hb c hc first second := lawful.trans c hc b hb a ha second first
  le_lub_left := lawful.glb_le_left
  le_lub_right := lawful.glb_le_right
  lub_le := lawful.le_glb
  glb_le_left := lawful.le_lub_left
  glb_le_right := lawful.le_lub_right
  le_glb := lawful.lub_le
  bottom_le := lawful.le_top
  le_top := lawful.bottom_le

/-- Joining a list onto an element gives the least element above it and the list. -/
private theorem foldl_lub (lawful : K.Lawful) {base : α} (baseMember : base ∈ K.elements)
    {levels : List α} (members : ∀ l ∈ levels, l ∈ K.elements) :
    levels.foldl K.lub base ∈ K.elements ∧ K.le base (levels.foldl K.lub base) = true ∧
      (∀ l ∈ levels, K.le l (levels.foldl K.lub base) = true) ∧
      ∀ u ∈ K.elements, K.le base u = true → (∀ l ∈ levels, K.le l u = true) →
        K.le (levels.foldl K.lub base) u = true := by
  induction levels generalizing base with
  | nil =>
    refine ⟨baseMember, lawful.refl base baseMember, by simp, ?_⟩
    intro u _ above _
    exact above
  | cons first rest ih =>
    have firstMember : first ∈ K.elements := members first (by simp)
    have joined : K.lub base first ∈ K.elements :=
      lawful.lub_mem base baseMember first firstMember
    obtain ⟨member, grows, covers, least⟩ :=
      ih joined (fun l there => members l (List.mem_cons_of_mem first there))
    refine ⟨member, ?_, ?_, ?_⟩
    · exact lawful.trans _ baseMember _ joined _ member
        (lawful.le_lub_left base baseMember first firstMember) grows
    · intro l there
      rcases List.mem_cons.mp there with rfl | later
      · exact lawful.trans _ firstMember _ joined _ member
          (lawful.le_lub_right base baseMember l firstMember) grows
      · exact covers l later
    · intro u uMember above all
      apply least u uMember
      · exact lawful.lub_le base baseMember first firstMember u uMember above
          (all first (by simp))
      · intro l later
        exact all l (List.mem_cons_of_mem first later)

namespace Lawful

variable {levels : List α}

theorem joinAll_mem (lawful : K.Lawful) (members : ∀ l ∈ levels, l ∈ K.elements) :
    K.joinAll levels ∈ K.elements :=
  (foldl_lub lawful lawful.bottom_mem members).1

theorem le_joinAll (lawful : K.Lawful) (members : ∀ l ∈ levels, l ∈ K.elements) {l : α}
    (member : l ∈ levels) : K.le l (K.joinAll levels) = true :=
  (foldl_lub lawful lawful.bottom_mem members).2.2.1 l member

theorem joinAll_le (lawful : K.Lawful) (members : ∀ l ∈ levels, l ∈ K.elements) {u : α}
    (known : u ∈ K.elements) (above : ∀ l ∈ levels, K.le l u = true) :
    K.le (K.joinAll levels) u = true :=
  (foldl_lub lawful lawful.bottom_mem members).2.2.2 u known (lawful.bottom_le u known) above

theorem meetAll_mem (lawful : K.Lawful) (members : ∀ l ∈ levels, l ∈ K.elements) :
    K.meetAll levels ∈ K.elements :=
  lawful.dual.joinAll_mem members

theorem meetAll_le (lawful : K.Lawful) (members : ∀ l ∈ levels, l ∈ K.elements) {l : α}
    (member : l ∈ levels) : K.le (K.meetAll levels) l = true :=
  lawful.dual.le_joinAll members member

theorem le_meetAll (lawful : K.Lawful) (members : ∀ l ∈ levels, l ∈ K.elements) {u : α}
    (known : u ∈ K.elements) (below : ∀ l ∈ levels, K.le u l = true) :
    K.le u (K.meetAll levels) = true :=
  lawful.dual.joinAll_le members known below

end Lawful

end LevelLattice

namespace Value

variable {K : LevelLattice Level} {a b c : Value}

@[simp] theorem pub_le : Value.le K .pub a = true := rfl

theorem le_refl (lawful : K.Lawful) (known : a.Belongs K) : Value.le K a a = true := by
  cases a with
  | pub => rfl
  | dyn => rfl
  | level l => exact lawful.refl l known

theorem le_trans (lawful : K.Lawful) (knownA : a.Belongs K) (knownB : b.Belongs K)
    (knownC : c.Belongs K) (first : Value.le K a b = true) (second : Value.le K b c = true) :
    Value.le K a c = true := by
  cases a <;> cases b <;> cases c <;> simp_all [Value.le, Belongs]
  exact lawful.trans _ knownA _ knownB _ knownC first second

theorem le_antisymm (lawful : K.Lawful) (knownA : a.Belongs K) (knownB : b.Belongs K)
    (below : Value.le K a b = true) (above : Value.le K b a = true) : a = b := by
  cases a <;> cases b <;> simp_all [Value.le, Belongs]
  exact lawful.antisymm _ knownA _ knownB below above

theorem dyn_le_iff : Value.le K .dyn a = true ↔ a = .dyn := by
  cases a <;> simp [Value.le]

theorem level_le_iff {l : Level} :
    Value.le K (.level l) a = true ↔ ∃ u, a = .level u ∧ K.le l u = true := by
  cases a <;> simp [Value.le]

theorem le_pub_iff : Value.le K a .pub = true ↔ a = .pub := by
  cases a <;> simp [Value.le]

theorem eq_pub_of_le {l : Level} (marker : Value.le K a .dyn = true)
    (level : Value.le K a (.level l) = true) : a = .pub := by
  cases a with
  | pub => rfl
  | dyn => cases level
  | level _ => cases marker

/-- What may flow may also be used for each other. -/
theorem compatible_of_le (below : Value.le K a b = true) : a.compatible b = true := by
  cases a <;> cases b <;> simp_all [Value.le, compatible]

theorem compatible_comm (a b : Value) : a.compatible b = b.compatible a := by
  cases a <;> cases b <;> rfl

theorem compatible_iff :
    a.compatible b = true ↔
      ¬ (a = .dyn ∧ ∃ l, b = .level l) ∧ ¬ (b = .dyn ∧ ∃ l, a = .level l) := by
  cases a <;> cases b <;> simp [compatible]

theorem bottom_le_iff (lawful : K.Lawful) (belongs : a.Belongs K) :
    Value.le K (.level K.bottom) a = true ↔ ∃ l, a = .level l := by
  rw [level_le_iff]
  constructor
  · rintro ⟨l, same, _⟩
    exact ⟨l, same⟩
  · rintro ⟨l, rfl⟩
    exact ⟨l, rfl, lawful.bottom_le l belongs⟩

theorem compatible_of_le_of_le {d : Value} (first : Value.le K a c = true)
    (joined : c.compatible d = true) (second : Value.le K b d = true) :
    a.compatible b = true := by
  cases a <;> cases b <;> cases c <;> cases d <;> simp_all [Value.le, compatible]

theorem implies_iff : a.implies b = true ↔ (a = .dyn → b = .dyn) := by
  cases a <;> cases b <;> simp [implies]

theorem holds_self (lawful : K.Lawful) (kind : Kind) (known : a.Belongs K) :
    kind.holds K a a = true := by
  cases kind with
  | flow => exact le_refl lawful known
  | compatible => cases a <;> rfl
  | implies => cases a <;> rfl

end Value

theorem Literal.le_eq (K : LevelLattice Level) (lower upper : Literal) :
    lower.le K upper = Value.le K (.ofLiteral lower) (.ofLiteral upper) := by
  cases lower <;> cases upper <;> rfl

end FlowTyping
