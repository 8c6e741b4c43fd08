namespace FlowTyping

universe u v w

variable {α : Type u} {β : Type v} {γ : Type w} {order next : α → α → Ordering}

/-- The order ties two values only where their keys agree. -/
def ComparesBy (order : α → α → Ordering) (key : α → β) : Prop :=
  ∀ a b, order a b = .eq → key a = key b

namespace ComparesBy

theorem on [Ord β] [Std.LawfulEqOrd β] (key : α → β) : ComparesBy (compareOn key) key := by
  intro a b tied
  exact Std.LawfulEqOrd.eq_of_compare tied

theorem lex {key : α → β} {rest : α → γ} (first : ComparesBy order key)
    (later : ComparesBy next rest) :
    ComparesBy (compareLex order next) (fun a => (key a, rest a)) := by
  intro a b tied
  have ties : order a b = .eq ∧ next a b = .eq := Ordering.then_eq_eq.mp tied
  exact Prod.ext (first a b ties.1) (later a b ties.2)

/-- Keys that are injective together make the order tell different values apart. -/
theorem lawful [Std.ReflCmp order] {key : α → β} (compares : ComparesBy order key)
    (injective : Function.Injective key) : Std.LawfulEqCmp order where
  eq_of_compare tied := injective (compares _ _ tied)

end ComparesBy

end FlowTyping
