import FlowTyping.Domain
import FlowTyping.Proofs.HasseLattice
import FlowTyping.Proofs.LatticeBounds
import FlowTyping.Proofs.PowersetLattice

namespace FlowTyping

theorem TwoPoint.lawful : TwoPoint.lattice.Lawful := by
  constructor <;> decide

namespace Domain

/-- A domain that its constructor accepts; a table of operations is none. -/
inductive Built : Domain → Prop where
  | twoPoint : Built .twoPoint
  | powerset {names : List String} {sets : Powerset}
      (accepted : Powerset.ofPrincipals names = .ok sets) : Built (.powerset sets)
  | hasse {elements : List String} {covers : List (String × String)} {diagram : Hasse}
      (accepted : Hasse.ofCovers elements covers = .ok diagram) : Built (.hasse diagram)

variable {domain : Domain} {a b : Level}

namespace Built

theorem lawful (built : domain.Built) : domain.lattice.Lawful := by
  cases built with
  | twoPoint => exact TwoPoint.lawful
  | powerset _ => exact Powerset.lawful _
  | hasse accepted => exact (Hasse.accepted_of_ofCovers accepted).lawful

theorem elements_eq (built : domain.Built) : domain.elements = .ok domain.lattice.elements := by
  cases built <;> rfl

theorem level_cases (built : domain.Built) (known : a ∈ domain.lattice.elements) :
    (domain = .twoPoint ∧ (a = .low ∨ a = .high)) ∨
      (∃ sets s, domain = .powerset sets ∧ a = .principals s) ∨
      ∃ diagram n, domain = .hasse diagram ∧ diagram.knows n = true ∧ a = .name n := by
  cases built with
  | twoPoint =>
    left
    simpa [lattice, TwoPoint.lattice] using known
  | powerset _ =>
    obtain ⟨s, _, rfl⟩ := Powerset.mem_elements.mp known
    exact Or.inr (Or.inl ⟨_, s, rfl, rfl⟩)
  | hasse accepted =>
    obtain ⟨n, listed, rfl⟩ := (Hasse.accepted_of_ofCovers accepted).mem_elements.mp known
    exact Or.inr (Or.inr ⟨_, n, rfl, by simpa [Hasse.knows] using listed, rfl⟩)

theorem refusal?_eq_none (built : domain.Built) (known : a ∈ domain.lattice.elements) :
    domain.refusal? (.level a) = none := by
  rcases built.level_cases known with
    ⟨rfl, rfl | rfl⟩ | ⟨sets, s, rfl, rfl⟩ | ⟨h, n, rfl, knows, rfl⟩
  · rfl
  · rfl
  · rfl
  · simp [refusal?, knows]

theorem le?_eq (built : domain.Built) (knownA : a ∈ domain.lattice.elements)
    (knownB : b ∈ domain.lattice.elements) :
    domain.le? (.level a) (.level b) = .ok (domain.lattice.le a b) := by
  have acceptsA := built.refusal?_eq_none knownA
  have acceptsB := built.refusal?_eq_none knownB
  have comparable : domain.incomparable? (.level a) (.level b) = none := by
    rcases built.level_cases knownA with ⟨rfl, _⟩ | ⟨sets, s, rfl, rfl⟩ | ⟨h, n, rfl, _, rfl⟩
    · simp [incomparable?, refusalAmong?, acceptsA, acceptsB]
    · simp [incomparable?, refusalAmong?, acceptsA, acceptsB]
    · simpa [incomparable?] using acceptsA
  unfold le?
  rw [comparable]
  rcases built.level_cases knownA with ⟨rfl, _⟩ | ⟨sets, s, rfl, rfl⟩ | ⟨h, n, rfl, _, rfl⟩ <;> rfl

theorem typeLe?_eq (built : domain.Built) {lower upper : Literal}
    (knownLower : (Value.ofLiteral lower).Belongs domain.lattice)
    (knownUpper : (Value.ofLiteral upper).Belongs domain.lattice) :
    domain.typeLe? lower upper = .ok (lower.le domain.lattice upper) := by
  cases lower with
  | dyn => cases upper <;> rfl
  | level l =>
    cases upper with
    | dyn => rfl
    | level u => simpa [typeLe?, Literal.le] using built.le?_eq knownLower knownUpper

private theorem combine?_eq (built : domain.Built) (operation : Literal → Literal → Literal)
    (knownA : a ∈ domain.lattice.elements) (knownB : b ∈ domain.lattice.elements) :
    domain.combine? operation (.level a) (.level b) = .ok (operation (.level a) (.level b)) := by
  simp [combine?, refusalAmong?, built.refusal?_eq_none knownA, built.refusal?_eq_none knownB]

theorem lub?_eq (built : domain.Built) (knownA : a ∈ domain.lattice.elements)
    (knownB : b ∈ domain.lattice.elements) :
    domain.lub? (.level a) (.level b) = .ok (.level (domain.lattice.lub a b)) := by
  have combined := built.combine?_eq domain.lattice.withDyn.lub knownA knownB
  rcases built.level_cases knownA with ⟨rfl, _⟩ | ⟨sets, s, rfl, rfl⟩ | ⟨h, n, rfl, _, rfl⟩ <;>
    exact combined

theorem glb?_eq (built : domain.Built) (knownA : a ∈ domain.lattice.elements)
    (knownB : b ∈ domain.lattice.elements) :
    domain.glb? (.level a) (.level b) = .ok (.level (domain.lattice.glb a b)) := by
  have combined := built.combine?_eq domain.lattice.withDyn.glb knownA knownB
  rcases built.level_cases knownA with ⟨rfl, _⟩ | ⟨sets, s, rfl, rfl⟩ | ⟨h, n, rfl, _, rfl⟩ <;>
    exact combined

/-- Folding a guarded operation that agrees with a plain one on some levels and stays among
them is folding the plain one. -/
private theorem foldlM_eq {guarded : Literal → Literal → Except Fault Literal}
    {plain : Level → Level → Level} {carrier : List Level}
    (agrees : ∀ a ∈ carrier, ∀ b ∈ carrier,
      guarded (.level a) (.level b) = .ok (.level (plain a b)))
    (stays : ∀ a ∈ carrier, ∀ b ∈ carrier, plain a b ∈ carrier) {base : Level}
    (inside : base ∈ carrier) {levels : List Level} (members : ∀ l ∈ levels, l ∈ carrier) :
    (levels.map Literal.level).foldlM guarded (.level base) =
      .ok (.level (levels.foldl plain base)) := by
  induction levels generalizing base with
  | nil => rfl
  | cons first rest ih =>
    have firstMember := members first (by simp)
    rw [List.map_cons, List.foldlM_cons, agrees base inside first firstMember]
    exact ih (stays base inside first firstMember)
      (fun l there => members l (List.mem_cons_of_mem first there))

theorem joinLevels?_eq (built : domain.Built) {levels : List Level}
    (members : ∀ l ∈ levels, l ∈ domain.lattice.elements) :
    domain.joinLevels? levels = .ok (domain.lattice.joinAll levels) := by
  have folded := foldlM_eq (fun a ha b hb => built.lub?_eq ha hb) built.lawful.lub_mem
    built.lawful.bottom_mem members
  rw [joinLevels?, joinAll?, folded]
  rfl

theorem meetLevels?_eq (built : domain.Built) {levels : List Level}
    (members : ∀ l ∈ levels, l ∈ domain.lattice.elements) :
    domain.meetLevels? levels = .ok (domain.lattice.meetAll levels) := by
  have folded := foldlM_eq (fun a ha b hb => built.glb?_eq ha hb) built.lawful.glb_mem
    built.lawful.top_mem members
  rw [meetLevels?, meetAll?, folded]
  rfl

end Built

/-- Two levels side by side between the extremes. -/
def diamond : Domain :=
  .hasse {
    names := ["bottom", "left", "right", "top"]
    above := [("bottom", ["bottom", "left", "right", "top"]), ("left", ["left", "top"]),
      ("right", ["right", "top"]), ("top", ["top"])]
    bottom := "bottom"
    top := "top" }

theorem diamond_built : diamond.Built :=
  @Built.hasse ["bottom", "left", "right", "top"]
    [("bottom", "left"), ("bottom", "right"), ("left", "top"), ("right", "top")] _ rfl

end Domain

end FlowTyping
