import FlowTyping.Domain.Laws
import FlowTyping.Proofs.BuiltDomain
import Mathlib.Data.Set.Defs

namespace FlowTyping

namespace LevelLattice

variable {α : Type} {K : LevelLattice α} {carrier : Set α} {a b c m n : α}

/-- The operations do not lead out of the carrier. -/
structure ClosedOn (K : LevelLattice α) (carrier : Set α) : Prop where
  top_mem : K.top ∈ carrier
  bottom_mem : K.bottom ∈ carrier
  lub_mem : ∀ a ∈ carrier, ∀ b ∈ carrier, K.lub a b ∈ carrier
  glb_mem : ∀ a ∈ carrier, ∀ b ∈ carrier, K.glb a b ∈ carrier

/-- An element above two others that is below all such elements of the carrier. -/
structure LeastAbove (K : LevelLattice α) (carrier : Set α) (a b n : α) : Prop where
  left : K.le a n = true
  right : K.le b n = true
  least : ∀ m ∈ carrier, K.le a m = true → K.le b m = true → K.le n m = true

/-- On the carrier, `le` is a partial order with a least and a greatest element, in which `lub`
gives the least upper bound of every pair and `glb`, seen upside down, the greatest lower one. -/
structure BoundedOn (K : LevelLattice α) (carrier : Set α) : Prop where
  refl : ∀ a ∈ carrier, K.le a a = true
  antisymm : ∀ a ∈ carrier, ∀ b ∈ carrier, K.le a b = true → K.le b a = true → a = b
  trans : ∀ a ∈ carrier, ∀ b ∈ carrier, ∀ c ∈ carrier,
    K.le a b = true → K.le b c = true → K.le a c = true
  lub_least : ∀ a ∈ carrier, ∀ b ∈ carrier, K.LeastAbove carrier a b (K.lub a b)
  glb_greatest : ∀ a ∈ carrier, ∀ b ∈ carrier, K.dual.LeastAbove carrier a b (K.glb a b)
  bottom_le : ∀ a ∈ carrier, K.le K.bottom a = true
  le_top : ∀ a ∈ carrier, K.le a K.top = true

/-- What the tests on three elements ask for. -/
structure ObeysAt (K : LevelLattice α) (a b c : α) : Prop where
  refl : K.le a a = true
  antisymm : K.le a b = true → K.le b a = true → a = b
  trans : K.le a b = true → K.le b c = true → K.le a c = true
  lub_self : K.lub a a = a
  glb_self : K.glb a a = a
  lub_comm : K.lub a b = K.lub b a
  glb_comm : K.glb a b = K.glb b a
  lub_assoc : K.lub (K.lub a b) c = K.lub a (K.lub b c)
  glb_assoc : K.glb (K.glb a b) c = K.glb a (K.glb b c)
  le_iff_lub : K.le a b = true ↔ K.lub a b = b
  le_iff_glb : K.le a b = true ↔ K.glb a b = a
  bottom_le : K.le K.bottom a = true
  le_top : K.le a K.top = true
  lub_top : K.lub a K.top = K.top
  glb_bottom : K.glb a K.bottom = K.bottom

/-- No triple of the carrier breaks a law. -/
def Obeys (K : LevelLattice α) (carrier : Set α) : Prop :=
  ∀ a ∈ carrier, ∀ b ∈ carrier, ∀ c ∈ carrier, K.ObeysAt a b c

private theorem guarded_iff {p q r : Bool} :
    (!(p && q) || r) = true ↔ (p = true → q = true → r = true) := by
  cases p <;> cases q <;> simp

private theorem agrees_iff {p : Bool} {q : Prop} [Decidable q] :
    (p == decide q) = true ↔ (p = true ↔ q) := by
  cases p <;> simp

theorem firstViolation?_eq_none [DecidableEq α] :
    K.firstViolation? a b c = none ↔ K.ObeysAt a b c := by
  have tested : K.firstViolation? a b c = none ↔ ∀ law ∈ K.laws a b c, law.1 = true := by
    simp [firstViolation?]
  rw [tested]
  simp only [laws, List.forall_mem_cons, guarded_iff, agrees_iff, decide_eq_true_eq,
    List.not_mem_nil, false_implies, implies_true, and_true]
  constructor
  · intro laws
    obtain ⟨reflexive, antisymm, trans, lubSelf, glbSelf, lubComm, glbComm, lubAssoc, glbAssoc,
      leLub, leGlb, bottomLe, leTop, lubTop, glbBottom⟩ := laws
    exact ⟨reflexive, antisymm, trans, lubSelf, glbSelf, lubComm, glbComm, lubAssoc, glbAssoc, leLub,
      leGlb, bottomLe, leTop, lubTop, glbBottom⟩
  · intro laws
    exact ⟨laws.refl, laws.antisymm, laws.trans, laws.lub_self, laws.glb_self, laws.lub_comm,
      laws.glb_comm, laws.lub_assoc, laws.glb_assoc, laws.le_iff_lub, laws.le_iff_glb,
      laws.bottom_le, laws.le_top, laws.lub_top, laws.glb_bottom⟩

theorem ClosedOn.dual (closed : K.ClosedOn carrier) : K.dual.ClosedOn carrier :=
  ⟨closed.bottom_mem, closed.top_mem, closed.glb_mem, closed.lub_mem⟩

namespace Obeys

/-- The laws hold upside down: each is another one read in the other direction. -/
theorem dual (obeys : K.Obeys carrier) : K.dual.Obeys carrier := by
  intro a inA b inB c inC
  have here := obeys a inA b inB c inC
  have back := obeys b inB a inA c inC
  exact {
    refl := here.refl
    antisymm := fun below above => here.antisymm above below
    trans := fun first second => (obeys c inC b inB a inA).trans second first
    lub_self := here.glb_self
    glb_self := here.lub_self
    lub_comm := here.glb_comm
    glb_comm := here.lub_comm
    lub_assoc := here.glb_assoc
    glb_assoc := here.lub_assoc
    le_iff_lub := by
      have meets : K.dual.lub a b = K.glb b a := here.glb_comm
      rw [meets]
      exact back.le_iff_glb
    le_iff_glb := by
      have joins : K.dual.glb a b = K.lub b a := here.lub_comm
      rw [joins]
      exact back.le_iff_lub
    bottom_le := here.le_top
    le_top := here.bottom_le
    lub_top := here.glb_bottom
    glb_bottom := here.lub_top }

theorem lub_least (obeys : K.Obeys carrier) (closed : K.ClosedOn carrier) (inA : a ∈ carrier)
    (inB : b ∈ carrier) : K.LeastAbove carrier a b (K.lub a b) := by
  have joined : K.lub a b ∈ carrier := closed.lub_mem a inA b inB
  have left : K.lub a (K.lub a b) = K.lub a b := by
    calc K.lub a (K.lub a b)
        = K.lub (K.lub a a) b := (obeys a inA a inA b inB).lub_assoc.symm
      _ = K.lub a b := by rw [(obeys a inA a inA a inA).lub_self]
  have right : K.lub b (K.lub a b) = K.lub a b := by
    calc K.lub b (K.lub a b)
        = K.lub (K.lub a b) b := (obeys b inB _ joined b inB).lub_comm
      _ = K.lub a (K.lub b b) := (obeys a inA b inB b inB).lub_assoc
      _ = K.lub a b := by rw [(obeys b inB b inB b inB).lub_self]
  refine ⟨(obeys a inA _ joined a inA).le_iff_lub.mpr left,
    (obeys b inB _ joined b inB).le_iff_lub.mpr right, ?_⟩
  intro m inM overA overB
  apply (obeys _ joined m inM m inM).le_iff_lub.mpr
  calc K.lub (K.lub a b) m
      = K.lub a (K.lub b m) := (obeys a inA b inB m inM).lub_assoc
    _ = K.lub a m := by rw [(obeys b inB m inM m inM).le_iff_lub.mp overB]
    _ = m := (obeys a inA m inM m inM).le_iff_lub.mp overA

theorem boundedOn (obeys : K.Obeys carrier) (closed : K.ClosedOn carrier) :
    K.BoundedOn carrier where
  refl a inA := (obeys a inA a inA a inA).refl
  antisymm a inA b inB := (obeys a inA b inB b inB).antisymm
  trans a inA b inB c inC := (obeys a inA b inB c inC).trans
  lub_least _ inA _ inB := obeys.lub_least closed inA inB
  glb_greatest _ inA _ inB := obeys.dual.lub_least closed.dual inA inB
  bottom_le a inA := (obeys a inA a inA a inA).bottom_le
  le_top a inA := (obeys a inA a inA a inA).le_top

end Obeys

namespace BoundedOn

theorem dual (bounded : K.BoundedOn carrier) : K.dual.BoundedOn carrier where
  refl := bounded.refl
  antisymm a inA b inB below above := bounded.antisymm a inA b inB above below
  trans a inA b inB c inC first second := bounded.trans c inC b inB a inA second first
  lub_least := bounded.glb_greatest
  glb_greatest := bounded.lub_least
  bottom_le := bounded.le_top
  le_top := bounded.bottom_le

theorem lub_eq (bounded : K.BoundedOn carrier) (closed : K.ClosedOn carrier) (inA : a ∈ carrier)
    (inB : b ∈ carrier) (inN : n ∈ carrier) (least : K.LeastAbove carrier a b n) :
    K.lub a b = n := by
  have join := bounded.lub_least a inA b inB
  have joined : K.lub a b ∈ carrier := closed.lub_mem a inA b inB
  exact bounded.antisymm _ joined n inN (join.least n inN least.left least.right)
    (least.least _ joined join.left join.right)

theorem lub_comm (bounded : K.BoundedOn carrier) (closed : K.ClosedOn carrier) (inA : a ∈ carrier)
    (inB : b ∈ carrier) : K.lub a b = K.lub b a := by
  have other := bounded.lub_least b inB a inA
  apply bounded.lub_eq closed inA inB (closed.lub_mem b inB a inA)
  exact ⟨other.right, other.left, fun m inM overA overB => other.least m inM overB overA⟩

theorem le_iff_lub (bounded : K.BoundedOn carrier) (closed : K.ClosedOn carrier)
    (inA : a ∈ carrier) (inB : b ∈ carrier) : K.le a b = true ↔ K.lub a b = b := by
  constructor
  · intro below
    apply bounded.lub_eq closed inA inB inB
    exact ⟨below, bounded.refl b inB, fun m inM overA overB => overB⟩
  · intro same
    have left := (bounded.lub_least a inA b inB).left
    rwa [same] at left

/-- Both ways of joining three elements give what is least above all of them. -/
theorem lub_assoc (bounded : K.BoundedOn carrier) (closed : K.ClosedOn carrier)
    (inA : a ∈ carrier) (inB : b ∈ carrier) (inC : c ∈ carrier) :
    K.lub (K.lub a b) c = K.lub a (K.lub b c) := by
  have first := bounded.lub_least a inA b inB
  have second := bounded.lub_least b inB c inC
  have inAB : K.lub a b ∈ carrier := closed.lub_mem a inA b inB
  have inBC : K.lub b c ∈ carrier := closed.lub_mem b inB c inC
  have whole := bounded.lub_least a inA _ inBC
  have inWhole : K.lub a (K.lub b c) ∈ carrier := closed.lub_mem a inA _ inBC
  apply bounded.lub_eq closed inAB inC inWhole
  refine ⟨?_, ?_, ?_⟩
  · apply first.least _ inWhole whole.left
    exact bounded.trans b inB _ inBC _ inWhole second.left whole.right
  · exact bounded.trans c inC _ inBC _ inWhole second.right whole.right
  · intro m inM overAB overC
    apply whole.least m inM
    · exact bounded.trans a inA _ inAB m inM first.left overAB
    · apply second.least m inM _ overC
      exact bounded.trans b inB _ inAB m inM first.right overAB

theorem obeys (bounded : K.BoundedOn carrier) (closed : K.ClosedOn carrier) :
    K.Obeys carrier := by
  intro a inA b inB c inC
  exact {
    refl := bounded.refl a inA
    antisymm := bounded.antisymm a inA b inB
    trans := bounded.trans a inA b inB c inC
    lub_self := (bounded.le_iff_lub closed inA inA).mp (bounded.refl a inA)
    glb_self := (bounded.dual.le_iff_lub closed.dual inA inA).mp (bounded.refl a inA)
    lub_comm := bounded.lub_comm closed inA inB
    glb_comm := bounded.dual.lub_comm closed.dual inA inB
    lub_assoc := bounded.lub_assoc closed inA inB inC
    glb_assoc := bounded.dual.lub_assoc closed.dual inA inB inC
    le_iff_lub := bounded.le_iff_lub closed inA inB
    le_iff_glb := by
      have meets : K.glb a b = K.glb b a := bounded.dual.lub_comm closed.dual inA inB
      rw [meets]
      exact bounded.dual.le_iff_lub closed.dual inB inA
    bottom_le := bounded.bottom_le a inA
    le_top := bounded.le_top a inA
    lub_top := (bounded.le_iff_lub closed inA closed.top_mem).mp (bounded.le_top a inA)
    glb_bottom := (bounded.dual.le_iff_lub closed.dual inA closed.bottom_mem).mp
      (bounded.bottom_le a inA) }

end BoundedOn

/-- The law checker characterises bounded lattices: over a carrier that the operations do not lead
out of, no triple breaks a law exactly if the operations are those of a bounded lattice. -/
theorem laws_characterise_lattices [DecidableEq α] (K : LevelLattice α) (carrier : Set α)
    (closed : K.ClosedOn carrier) :
    (∀ a ∈ carrier, ∀ b ∈ carrier, ∀ c ∈ carrier, K.firstViolation? a b c = none) ↔
      K.BoundedOn carrier := by
  simp only [firstViolation?_eq_none]
  constructor
  · intro obeys
    exact Obeys.boundedOn obeys closed
  · intro bounded
    exact bounded.obeys closed

def listed (K : LevelLattice α) : Set α := fun a => a ∈ K.elements

theorem Lawful.closedOn (lawful : K.Lawful) : K.ClosedOn K.listed :=
  ⟨lawful.top_mem, lawful.bottom_mem, lawful.lub_mem, lawful.glb_mem⟩

theorem Lawful.boundedOn (lawful : K.Lawful) : K.BoundedOn K.listed where
  refl := lawful.refl
  antisymm := lawful.antisymm
  trans := lawful.trans
  lub_least a inA b inB := ⟨lawful.le_lub_left a inA b inB, lawful.le_lub_right a inA b inB,
    fun m inM => lawful.lub_le a inA b inB m inM⟩
  glb_greatest a inA b inB := ⟨lawful.glb_le_left a inA b inB, lawful.glb_le_right a inA b inB,
    fun m inM => lawful.le_glb a inA b inB m inM⟩
  bottom_le := lawful.bottom_le
  le_top := lawful.le_top

/-- No triple of the four levels of the diamond breaks a law, so they form a lattice. -/
theorem laws_characterise_lattices_diamond :
    let K := Domain.diamond.lattice
    K.ClosedOn K.listed ∧
      (∀ a ∈ K.listed, ∀ b ∈ K.listed, ∀ c ∈ K.listed, K.firstViolation? a b c = none) ∧
      K.BoundedOn K.listed := by
  intro K
  have closed : K.ClosedOn K.listed := Domain.diamond_built.lawful.closedOn
  have tested : ∀ a ∈ K.elements, ∀ b ∈ K.elements, ∀ c ∈ K.elements,
      K.firstViolation? a b c = none := by
    decide +kernel
  exact ⟨closed, tested, (laws_characterise_lattices K K.listed closed).mp tested⟩

theorem ObeysAt.withDyn {K : LevelLattice Level} {a b c : Level} (laws : K.ObeysAt a b c) :
    K.withDyn.ObeysAt (.level a) (.level b) (.level c) where
  refl := laws.refl
  antisymm below above := congrArg Literal.level (laws.antisymm below above)
  trans := laws.trans
  lub_self := congrArg Literal.level laws.lub_self
  glb_self := congrArg Literal.level laws.glb_self
  lub_comm := congrArg Literal.level laws.lub_comm
  glb_comm := congrArg Literal.level laws.glb_comm
  lub_assoc := congrArg Literal.level laws.lub_assoc
  glb_assoc := congrArg Literal.level laws.glb_assoc
  le_iff_lub := laws.le_iff_lub.trans (Literal.level.injEq _ _).to_iff.symm
  le_iff_glb := laws.le_iff_glb.trans (Literal.level.injEq _ _).to_iff.symm
  bottom_le := laws.bottom_le
  le_top := laws.le_top
  lub_top := congrArg Literal.level laws.lub_top
  glb_bottom := congrArg Literal.level laws.glb_bottom

end LevelLattice

theorem Domain.Built.checkLaws_eq {domain : Domain} (built : domain.Built) {a b c : Level}
    (knownA : a ∈ domain.lattice.elements) (knownB : b ∈ domain.lattice.elements)
    (knownC : c ∈ domain.lattice.elements) :
    domain.checkLaws (.level a) (.level b) (.level c) = .ok () := by
  have accepted : domain.refusalAmong? [.level a, .level b, .level c] = none := by
    simp [refusalAmong?, built.refusal?_eq_none knownA, built.refusal?_eq_none knownB,
      built.refusal?_eq_none knownC]
  have obeys := built.lawful.boundedOn.obeys built.lawful.closedOn
  have passed := LevelLattice.firstViolation?_eq_none.mpr (obeys a knownA b knownB c knownC).withDyn
  simp only [checkLaws, lawViolation?, accepted, Option.isNone_none, if_true, passed]

end FlowTyping
