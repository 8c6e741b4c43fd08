import FlowTyping.Proofs.Condensation

/-!
Which constraints a minimized set keeps, said without the loop. When a constraint comes up,
what stands beside it is what has been kept of the earlier ones and all of the later ones; it
is kept exactly when these do not entail it. Since this settles the members from the first to
the last, two sets minimize alike as soon as the same things are entailed at each place.
-/

namespace FlowTyping

namespace Constraint

theorem order_lt_of_rank {c d : Flow} (less : c.kind.rank < d.kind.rank) : order c d = .lt := by
  have ranked : compareOn kindRank c d = .lt := Nat.compare_eq_lt.mpr less
  simp [order, compareLex, ranked]

theorem rank_le_of_order_lt {c d : Flow} (less : order c d = .lt) :
    c.kind.rank ≤ d.kind.rank := by
  by_cases greater : d.kind.rank < c.kind.rank
  · exact absurd less (Std.OrientedCmp.not_lt_of_lt (order_lt_of_rank greater))
  · exact Nat.le_of_not_lt greater

theorem flow_of_order_lt {c d : Flow} (flow : c.kind = .flow) (less : order c d = .lt) :
    d.kind = .flow := by
  have rank := rank_le_of_order_lt less
  rw [flow] at rank
  cases kind : d.kind with
  | flow => rfl
  | compatible => rw [kind] at rank; exact absurd rank (by decide)
  | implies => rw [kind] at rank; exact absurd rank (by decide)

theorem implies_of_order_lt {c d : Flow} (implies : d.kind = .implies) (less : order c d = .lt) :
    c.kind = .implies := by
  have rank := rank_le_of_order_lt less
  rw [implies] at rank
  cases kind : c.kind with
  | implies => rfl
  | compatible => rw [kind] at rank; exact absurd rank (by decide)
  | flow => rw [kind] at rank; exact absurd rank (by decide)

theorem ne_of_order_lt {c d : Flow} (less : order c d = .lt) : c ≠ d := by
  intro same
  subst same
  exact Std.OrientedCmp.not_lt_of_lt less less

end Constraint

namespace ConstraintSet

variable {K : LevelLattice Level} {cs kept : ConstraintSet} {σ : Valuation} {c d : Flow}

/-- What stands beside a constraint: some kept ones before it and all those after it. -/
def standing (kept cs : ConstraintSet) (c : Flow) : ConstraintSet :=
  (kept.filter (fun d => decide (Constraint.order d c = .lt))).union
    (cs.filter (fun d => decide (Constraint.order c d = .lt)))

theorem mem_standing :
    d ∈ standing kept cs c ↔
      (d ∈ kept ∧ Constraint.order d c = .lt) ∨ (d ∈ cs ∧ Constraint.order c d = .lt) := by
  simp [standing]

/-- One round of the loop: the set without a constraint that its others entail. -/
def settle (K : LevelLattice Level) (kept : ConstraintSet) (c : Flow) : ConstraintSet :=
  if (kept.erase c).entails K c = true then kept.erase c else kept

theorem dropDerivable_cons {rest : List Flow} :
    kept.dropDerivable K (c :: rest) = (kept.settle K c).dropDerivable K rest := rfl

theorem mem_settle_of_ne (apart : d ≠ c) : d ∈ kept.settle K c ↔ d ∈ kept := by
  unfold settle
  split
  · simp [apart]
  · rfl

theorem mem_settle_self (member : c ∈ kept) :
    c ∈ kept.settle K c ↔ ¬ (kept.erase c).entails K c = true := by
  unfold settle
  split
  · rename_i entailed
    simp [entailed]
  · rename_i free
    simp [free, member]

/-- The constraints of an increasing list are the last ones of a set. -/
structure Ending (kept : ConstraintSet) (asked : List Flow) : Prop where
  increasing : asked.Pairwise (fun c d => Constraint.order c d = .lt)
  listed : ∀ c ∈ asked, c ∈ kept
  earlier : ∀ d ∈ kept, d ∉ asked → ∀ c ∈ asked, Constraint.order d c = .lt

namespace Ending

variable {first : Flow} {rest : List Flow}

theorem first_lt (ending : Ending kept (first :: rest)) :
    ∀ c ∈ rest, Constraint.order first c = .lt :=
  (List.pairwise_cons.mp ending.increasing).1

theorem settle (ending : Ending kept (first :: rest)) :
    Ending (kept.settle K first) rest := by
  refine ⟨(List.pairwise_cons.mp ending.increasing).2, ?_, ?_⟩
  · intro c member
    have apart := (Constraint.ne_of_order_lt (ending.first_lt c member)).symm
    exact (mem_settle_of_ne apart).mpr (ending.listed c (List.mem_cons_of_mem first member))
  · intro d member missing c later
    by_cases same : d = first
    · exact same ▸ ending.first_lt c later
    · have unasked : d ∉ first :: rest := by simp [same, missing]
      exact ending.earlier d ((mem_settle_of_ne same).mp member) unasked c
        (List.mem_cons_of_mem first later)

end Ending

/-- Beside a constraint stands all else when nothing before it has been dropped. -/
theorem standing_eq_erase {result : ConstraintSet} (included : ∀ d ∈ result, d ∈ kept)
    (before : ∀ d ∈ kept, Constraint.order d c = .lt → d ∈ result) :
    standing result kept c = kept.erase c := by
  apply ext_mem
  intro d
  rw [mem_standing, mem_erase]
  constructor
  · intro beside
    rcases beside with ⟨member, less⟩ | ⟨member, less⟩
    · exact ⟨included d member, Constraint.ne_of_order_lt less⟩
    · exact ⟨member, (Constraint.ne_of_order_lt less).symm⟩
  · intro others
    obtain ⟨member, apart⟩ := others
    cases place : Constraint.order d c with
    | lt => exact Or.inl ⟨before d member place, rfl⟩
    | eq => exact absurd (Std.LawfulEqCmp.eq_of_compare place) apart
    | gt => exact Or.inr ⟨member, Std.OrientedCmp.lt_of_gt place⟩

/-- A round about an earlier constraint does not change what comes after a later one. -/
theorem standing_settle {first : Flow} {result : ConstraintSet}
    (less : Constraint.order first c = .lt) :
    standing result (kept.settle K first) c = standing result kept c := by
  apply ext_mem
  intro d
  rw [mem_standing, mem_standing]
  apply or_congr_right
  apply and_congr_left
  intro after
  apply mem_settle_of_ne
  intro same
  subst same
  exact Std.OrientedCmp.not_lt_of_lt after less

/-- What the loop leaves of a set is what it does not ask about, and of the rest what is not
entailed by what stands beside it. -/
theorem mem_dropDerivable_iff {asked : List Flow} (ending : Ending kept asked) :
    c ∈ kept.dropDerivable K asked ↔ c ∈ kept ∧
      (c ∈ asked → ¬ (standing (kept.dropDerivable K asked) kept c).entails K c = true) := by
  induction asked generalizing kept c with
  | nil => simp [dropDerivable]
  | cons first rest ih =>
    have later : ∀ {d}, d ∈ (kept.settle K first).dropDerivable K rest ↔
        d ∈ kept.settle K first ∧ (d ∈ rest →
          ¬ (standing ((kept.settle K first).dropDerivable K rest)
            (kept.settle K first) d).entails K d = true) :=
      ih ending.settle
    have fresh : first ∉ rest := fun member =>
      Constraint.ne_of_order_lt (ending.first_lt first member) rfl
    have firstMember : first ∈ kept := ending.listed first (by simp)
    rw [dropDerivable_cons]
    by_cases same : c = first
    · subst same
      have included : ∀ d ∈ (kept.settle K c).dropDerivable K rest, d ∈ kept := by
        intro d member
        by_cases same : d = c
        · exact same ▸ firstMember
        · exact (mem_settle_of_ne same).mp (later.mp member).1
      have before : ∀ d ∈ kept, Constraint.order d c = .lt →
          d ∈ (kept.settle K c).dropDerivable K rest := by
        intro d member less
        refine later.mpr ⟨(mem_settle_of_ne (Constraint.ne_of_order_lt less)).mpr member, ?_⟩
        intro asked
        exact absurd less (Std.OrientedCmp.not_lt_of_lt (ending.first_lt d asked))
      rw [standing_eq_erase included before, later, mem_settle_self firstMember]
      simp [fresh, firstMember]
    · rw [later, mem_settle_of_ne same]
      apply and_congr_right
      intro member
      simp only [List.mem_cons, same, false_or]
      apply forall_congr'
      intro asked
      rw [standing_settle (ending.first_lt c asked)]

def proper (cs : ConstraintSet) : ConstraintSet := cs.filter (fun c => !c.isTrivial)

/-- A minimized set keeps exactly what is not entailed by what stands beside it. -/
theorem mem_minimize_iff :
    c ∈ cs.minimize K ↔
      c ∈ cs.proper ∧ ¬ (standing (cs.minimize K) cs.proper c).entails K c = true := by
  have ending : Ending cs.proper cs.proper.toList :=
    ⟨cs.proper.members.increasing, fun _ member => member,
      fun _ member missing => absurd member missing⟩
  have loop : cs.minimize K = cs.proper.dropDerivable K cs.proper.toList := rfl
  rw [loop, mem_dropDerivable_iff ending]
  apply and_congr_right
  intro member
  simp [mem_toList, member]

theorem minimize_proper : ∀ c ∈ cs.minimize K, c ∈ cs.proper :=
  fun _ member => (mem_minimize_iff.mp member).1

theorem length_before_lt (member : d ∈ cs) (less : Constraint.order d c = .lt) :
    (cs.toList.filter (fun e => decide (Constraint.order e d = .lt))).length <
      (cs.toList.filter (fun e => decide (Constraint.order e c = .lt))).length := by
  have nested : cs.toList.filter (fun e => decide (Constraint.order e d = .lt)) =
      (cs.toList.filter (fun e => decide (Constraint.order e c = .lt))).filter
        (fun e => decide (Constraint.order e d = .lt)) := by
    rw [List.filter_filter]
    apply List.filter_congr
    intro e _
    by_cases before : Constraint.order e d = .lt
    · simp [before, Std.TransCmp.lt_trans before less]
    · simp [before]
  rw [nested]
  apply List.length_filter_lt_length_iff_exists.mpr
  refine ⟨d, List.mem_filter.mpr ⟨member, by simp [less]⟩, ?_⟩
  have irreflexive : Constraint.order d d ≠ .lt := fun before =>
    Constraint.ne_of_order_lt before rfl
  simp [irreflexive]

/-- Constraints that are always entailed where they come up, and never help where another one
does, can be left out before minimizing. -/
theorem minimize_eq_of_standing {whole part : ConstraintSet}
    (included : ∀ c ∈ part.proper, c ∈ whole.proper)
    (agree : ∀ c ∈ whole.proper,
      (standing (part.minimize K) whole.proper c).entails K c = true ↔
        (c ∈ part.proper → (standing (part.minimize K) part.proper c).entails K c = true)) :
    whole.minimize K = part.minimize K := by
  have members : ∀ c ∈ whole.proper, c ∈ whole.minimize K ↔ c ∈ part.minimize K := by
    intro c member
    induction bound : (whole.proper.toList.filter
      (fun e => decide (Constraint.order e c = .lt))).length using Nat.strongRecOn
      generalizing c with
    | _ count ih =>
      -- Up to `c` the two results have the same members, so the same stands beside it.
      have beside : standing (whole.minimize K) whole.proper c =
          standing (part.minimize K) whole.proper c := by
        apply ext_mem
        intro d
        rw [mem_standing, mem_standing]
        apply or_congr_left
        apply and_congr_left
        intro less
        have earlier : d ∈ whole.proper → (d ∈ whole.minimize K ↔ d ∈ part.minimize K) :=
          fun there => ih _ (bound ▸ length_before_lt there less) d there rfl
        constructor
        · intro kept
          exact (earlier (minimize_proper d kept)).mp kept
        · intro kept
          exact (earlier (included d (minimize_proper d kept))).mpr kept
      rw [mem_minimize_iff, mem_minimize_iff, beside, agree c member]
      simp [member]
  apply ext_mem
  intro c
  constructor
  · intro kept
    exact (members c (minimize_proper c kept)).mp kept
  · intro kept
    exact (members c (included c (minimize_proper c kept))).mpr kept

theorem proper_eq (apart : ∀ c ∈ cs, c.lhs ≠ c.rhs) : cs.proper = cs := by
  apply ext_mem
  intro c
  rw [proper, mem_filter]
  constructor
  · exact And.left
  · intro member
    exact ⟨member, by simp [Constraint.isTrivial, apart c member]⟩

theorem standing_over (overKept : kept.Over K) (based : cs.Over K) :
    (standing kept cs c).Over K := by
  apply over_iff_sides.mpr
  intro d member
  rcases mem_standing.mp member with ⟨there, _⟩ | ⟨there, _⟩
  · exact overKept.known there
  · exact based.known there

section Condensed

variable {whole part : ConstraintSet} (lawful : K.Lawful) (overWhole : whole.Over K)
variable (overPart : part.Over K) (apart : ∀ c ∈ whole.core K, c.lhs ≠ c.rhs)
include lawful overWhole apart

theorem mem_condense_iff :
    c ∈ whole.condense K ↔
      c ∈ whole.core K ∧ ¬ Entails K (standing (whole.condense K) (whole.core K) c) c := by
  rw [condense_eq, mem_minimize_iff, proper_eq apart]
  apply and_congr_right
  intro member
  obtain ⟨left, right⟩ := overWhole.known (core_subset c member)
  have beside : (standing ((whole.core K).minimize K) (whole.core K) c).Over K :=
    standing_over (overWhole.subset condense_subset) (overWhole.subset core_subset)
  rw [← Closure.entails_iff lawful beside left right]
  rfl

include overPart

/-- Two sets condense alike if the constraints that only one core has are entailed where they
come up, and never help where another one does. -/
theorem condense_eq_of_standing (included : ∀ c ∈ part.core K, c ∈ whole.core K)
    (agree : ∀ c ∈ whole.core K,
      Entails K (standing (part.condense K) (whole.core K) c) c ↔
        (c ∈ part.core K → Entails K (standing (part.condense K) (part.core K) c) c)) :
    whole.condense K = part.condense K := by
  have kept : (part.condense K).Over K := overPart.subset condense_subset
  have properPart : (part.core K).proper = part.core K :=
    proper_eq fun c member => apart c (included c member)
  rw [condense_eq, condense_eq]
  apply minimize_eq_of_standing
  · rw [proper_eq apart, properPart]
    exact included
  · rw [proper_eq apart, properPart]
    intro c member
    obtain ⟨left, right⟩ := overWhole.known (core_subset c member)
    have besideWhole : (standing (part.condense K) (whole.core K) c).Over K :=
      standing_over kept (overWhole.subset core_subset)
    have besidePart : (standing (part.condense K) (part.core K) c).Over K :=
      standing_over kept (overPart.subset core_subset)
    have answer := agree c member
    rw [← Closure.entails_iff lawful besideWhole left right,
      ← Closure.entails_iff lawful besidePart left right] at answer
    exact answer

end Condensed

/-- Beside a constraint that is no flow stand all flows of the core. -/
theorem flows_hold_of_standing (lawful : K.Lawful) (based : cs.Over K) (other : c.kind ≠ .flow)
    (solution : Solution K (standing kept (cs.core K) c) σ) :
    ∀ d ∈ cs, d.kind = .flow → Flow.holds K σ d = true := by
  apply holds_of_backbone lawful based
  apply solution.subset
  intro d member
  have flow := (mem_backbone.mp member).2
  have later : Constraint.order c d = .lt := by
    apply Constraint.order_lt_of_rank
    rw [flow]
    cases kind : c.kind with
    | flow => exact absurd kind other
    | compatible => decide
    | implies => decide
  exact mem_standing.mpr (Or.inr ⟨backbone_subset_core d member, later⟩)

/-- Beside a `=>` stand all compatibilities of the core as well. -/
theorem compatibles_hold_of_standing (lawful : K.Lawful) (based : cs.Over K)
    (implies : c.kind = .implies) (solution : Solution K (standing kept (cs.core K) c) σ) :
    ∀ d ∈ cs, d.kind = .compatible → Flow.holds K σ d = true := by
  intro d member compatible
  have other : d.kind ≠ .flow := by simp [compatible]
  by_cases inside : d ∈ cs.core K
  · apply solution.holds d
    refine mem_standing.mpr (Or.inr ⟨inside, Constraint.order_lt_of_rank ?_⟩)
    rw [implies, compatible]
    decide
  · have entailed := entailed_of_not_mem_core lawful based member other inside
    have flows := flows_hold_of_standing lawful based (by simp [implies]) solution
    refine entailed σ ⟨solution.belongs, ?_⟩
    intro e there
    exact flows e (core_subset e (backbone_subset_core e there)) (mem_backbone.mp there).2

end ConstraintSet

end FlowTyping
