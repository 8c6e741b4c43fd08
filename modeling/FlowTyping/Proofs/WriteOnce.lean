import FlowTyping.Signature.Registry
import Mathlib.Logic.Relation

namespace FlowTyping.Registry

variable {r next later : Registry} {key other : String} {signature stored kept : Signature}

theorem register_eq_ok :
    r.register key signature = .ok (stored, next) ↔ stored = signature ∧
      (r.get? key = none ∧ next = ⟨Table.put key signature r.entries⟩ ∨
        r.get? key = some signature ∧ next = r) := by
  unfold register
  cases found : r.get? key with
  | none =>
    simp only [Except.ok.injEq, Prod.mk.injEq, true_and, reduceCtorEq, false_and, or_false]
    rw [eq_comm, @eq_comm _ next]
  | some existing =>
    by_cases same : existing = signature
    · subst same
      simp only [if_true, Except.ok.injEq, Prod.mk.injEq, reduceCtorEq, false_and, true_and,
        false_or]
      rw [eq_comm, @eq_comm _ next]
    · simp [same]

theorem get?_register (registered : r.register key signature = .ok (stored, next)) :
    next.get? key = some stored := by
  obtain ⟨same, ⟨_, put⟩ | ⟨found, unchanged⟩⟩ := register_eq_ok.mp registered
  · subst same put
    rw [get?, Table.find?_put, if_pos rfl]
  · subst same unchanged
    exact found

theorem get?_of_register (registered : r.register key signature = .ok (stored, next))
    (found : r.get? other = some kept) : next.get? other = some kept := by
  obtain ⟨_, ⟨free, put⟩ | ⟨_, unchanged⟩⟩ := register_eq_ok.mp registered
  · subst put
    have apart : key ≠ other := by
      intro same
      rw [← same, free] at found
      cases found
    rw [get?, Table.find?_put, if_neg apart]
    exact found
  · subst unchanged
    exact found

/-- A registry that some registrations, one after the other, make of another. -/
def Later : Registry → Registry → Prop :=
  Relation.ReflTransGen fun r next => ∃ key signature stored,
    r.register key signature = .ok (stored, next)

theorem Later.get? (run : Later r later) (found : r.get? key = some kept) :
    later.get? key = some kept := by
  induction run with
  | refl => exact found
  | tail _ step ih =>
    obtain ⟨_, _, _, registered⟩ := step
    exact get?_of_register registered ih

/-- However many registrations follow, registering the signature again is accepted and
changes nothing. -/
theorem Later.register (run : Later next later)
    (registered : r.register key signature = .ok (stored, next)) :
    later.register key signature = .ok (stored, later) := by
  obtain ⟨same, _⟩ := register_eq_ok.mp registered
  subst same
  exact register_eq_ok.mpr ⟨rfl, Or.inr ⟨run.get? (get?_register registered), rfl⟩⟩

end FlowTyping.Registry
