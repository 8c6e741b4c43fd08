import FlowTyping.Diagnosis
import FlowTyping.Proofs.GuardedAgreement
import FlowTyping.Proofs.Projection
import FlowTyping.Proofs.WrittenLevels

/-!
What is computed from constraints depends on which constraints they are, and not on how they
were supplied. Two things carry this. The keys by which operands and constraints are sorted
never tie on different operands over one domain, so a set has one arrangement by its keys; and
joins and meets over the levels around a node do not depend on the order in which the levels
are met. The keys do tie on levels that no domain has side by side, such as the set of `a` and
`b` and the set of a principal named `a,b`.
-/

namespace FlowTyping

namespace Text

variable {separator : Char} {pieces others : List (List Char)}

/-- Joined texts tell their pieces, as long as no piece is empty or holds the separator. -/
theorem intercalate_injective (free : ∀ piece ∈ pieces, separator ∉ piece ∧ piece ≠ [])
    (freeOthers : ∀ piece ∈ others, separator ∉ piece ∧ piece ≠ [])
    (same : [separator].intercalate pieces = [separator].intercalate others) :
    pieces = others := by
  cases pieces with
  | nil =>
    cases others with
    | nil => rfl
    | cons second further =>
      exact absurd same.symm (intercalate_ne_nil (freeOthers second (by simp)).2)
  | cons first rest =>
    cases others with
    | nil => exact absurd same (intercalate_ne_nil (free first (by simp)).2)
    | cons second further =>
      rw [← splitAtChar_intercalate (by simp) fun piece listed => (free piece listed).1, same,
        splitAtChar_intercalate (by simp) fun piece listed => (freeOthers piece listed).1]

end Text

namespace Powerset

/-- Over accepted principals the text of a set tells its members. -/
theorem eq_of_sortText_eq {p : Powerset} (valid : ∀ name ∈ p.principals, validName name = true)
    {s t : PrincipalSet} (insideS : ∀ name ∈ s, name ∈ p.principals)
    (insideT : ∀ name ∈ t, name ∈ p.principals)
    (same : (Level.principals s).sortText = (Level.principals t).sortText) : s = t := by
  have texts := congrArg String.toList same
  simp only [Level.sortText, String.toList_intercalate] at texts
  have free : ∀ u : PrincipalSet, (∀ name ∈ u, name ∈ p.principals) →
      ∀ piece ∈ u.toList.map String.toList, ',' ∉ piece ∧ piece ≠ [] := by
    intro u inside piece listed
    obtain ⟨name, member, spelled⟩ := List.mem_map.mp listed
    subst spelled
    have accepted := valid name (inside name member)
    exact ⟨not_mem_of_reserved accepted (by decide), ne_nil_of_validName accepted⟩
  have pieces := Text.intercalate_injective (free s insideS) (free t insideT) texts
  have lists : s.toList = t.toList :=
    (List.map_inj_right fun _ _ spelled => String.toList_inj.mp spelled).mp pieces
  exact SortedSet.ext_mem fun name => by rw [SortedSet.mem_def, lists, SortedSet.mem_def]

end Powerset

/-- Levels by the key that sorts them: their shape, then their text. -/
def Level.keyOrder : Level → Level → Ordering := compareLex (compareOn shape) (compareOn sortText)

/-- The dynamic marker first, then the levels by their keys. -/
def Literal.keyOrder : Literal → Literal → Ordering
  | .dyn, .dyn => .eq
  | .dyn, .level _ => .lt
  | .level _, .dyn => .gt
  | .level a, .level b => a.keyOrder b

/-- Literals by their keys, then the variables by namespace, kind and index. -/
def Operand.keyOrder : Operand → Operand → Ordering
  | .literal a, .literal b => a.keyOrder b
  | .literal _, .var _ => .lt
  | .var _, .literal _ => .gt
  | .var v, .var w => compare v w

/-- Constraints by kind, then by the keys of their sides. -/
def Flow.keyOrder (c d : Flow) : Ordering :=
  (compare c.kindRank d.kindRank).then
    ((c.lhs.keyOrder d.lhs).then (c.rhs.keyOrder d.rhs))

section Keys

variable {domain : Domain}

theorem Domain.Built.eq_of_keyOrder (built : domain.Built) {a b : Level}
    (knownA : a ∈ domain.lattice.elements) (knownB : b ∈ domain.lattice.elements)
    (tie : a.keyOrder b = .eq) : a = b := by
  have keys : (a.shape, a.sortText) = (b.shape, b.sortText) :=
    ComparesBy.lex (.on Level.shape) (.on Level.sortText) a b tie
  have texts : a.sortText = b.sortText := congrArg Prod.snd keys
  cases built with
  | twoPoint =>
    have points : ∀ l ∈ TwoPoint.lattice.elements, ∀ m ∈ TwoPoint.lattice.elements,
        l.sortText = m.sortText → l = m := by decide
    exact points a knownA b knownB texts
  | powerset accepted =>
    obtain ⟨s, insideS, shapeA⟩ := Powerset.mem_elements.mp knownA
    obtain ⟨t, insideT, shapeB⟩ := Powerset.mem_elements.mp knownB
    subst shapeA shapeB
    have valid := Powerset.validName_of_ofPrincipals accepted
    exact congrArg Level.principals (Powerset.eq_of_sortText_eq valid insideS insideT texts)
  | hasse accepted =>
    have listed := Hasse.accepted_of_ofCovers accepted
    obtain ⟨n, _, shapeA⟩ := listed.mem_elements.mp knownA
    obtain ⟨m, _, shapeB⟩ := listed.mem_elements.mp knownB
    subst shapeA shapeB
    exact congrArg Level.name texts

example : (Level.principals (.ofList ["a", "b"])).keyOrder (.principals (.ofList ["a,b"])) = .eq := by
  decide +kernel

theorem Level.keyOrder_eq (built : domain.Built) {a b : Level}
    (knownA : a ∈ domain.lattice.elements) (knownB : b ∈ domain.lattice.elements) :
    a.keyOrder b = compare a b := by
  have refined : compare a b = (a.keyOrder b).then
      (compareLex (compareOn members) (compareOn value) a b) := by
    simp only [compare, order, keyOrder, compareLex, Ordering.then_assoc]
  by_cases tie : a.keyOrder b = .eq
  · have same := built.eq_of_keyOrder knownA knownB tie
    subst same
    rw [tie, Std.ReflOrd.compare_self]
  · rw [refined]
    cases decided : a.keyOrder b with
    | lt => rfl
    | gt => rfl
    | eq => exact absurd decided tie

theorem Literal.keyOrder_eq (built : domain.Built) {a b : Literal}
    (knownA : (Value.ofLiteral a).Belongs domain.lattice)
    (knownB : (Value.ofLiteral b).Belongs domain.lattice) : a.keyOrder b = compare a b := by
  cases a with
  | dyn => cases b <;> rfl
  | level l =>
    cases b with
    | dyn => rfl
    | level m => exact Level.keyOrder_eq built knownA knownB

theorem Operand.keyOrder_eq (built : domain.Built) {a b : Operand}
    (knownA : a.Known domain.lattice) (knownB : b.Known domain.lattice) :
    a.keyOrder b = compare a b := by
  cases a with
  | literal l =>
    cases b with
    | literal m =>
      have keys := Literal.keyOrder_eq built knownA.literal knownB.literal
      have whole : compare (Operand.literal l) (.literal m) = (compare l m).then .eq := rfl
      rw [whole, Ordering.then_eq]
      exact keys
    | var w => rfl
  | var v =>
    cases b with
    | literal m => rfl
    | var w =>
      have literals : compareOn literalPart (.var v) (.var w) = .eq :=
        @Std.ReflOrd.compare_self _ _ _ Literal.dyn
      have whole : compare (Operand.var v) (.var w) =
          (compareOn rank (.var v) (.var w)).then
            ((compareOn literalPart (.var v) (.var w)).then (compare v w)) := rfl
      rw [whole, literals]
      rfl

theorem Flow.keyOrder_eq (built : domain.Built) {c d : Flow}
    (knownC : c.lhs.Known domain.lattice ∧ c.rhs.Known domain.lattice)
    (knownD : d.lhs.Known domain.lattice ∧ d.rhs.Known domain.lattice) :
    c.keyOrder d = Constraint.order c d := by
  rw [keyOrder, Operand.keyOrder_eq built knownC.1 knownD.1,
    Operand.keyOrder_eq built knownC.2 knownD.2]
  rfl

end Keys

/-- A list that enumerates some members once each, and along which the keys nowhere
decrease. -/
structure Arranged {α : Type} (key : α → α → Ordering) (member : α → Prop) (listing : List α) :
    Prop where
  distinct : listing.Nodup
  members : ∀ a, a ∈ listing ↔ member a
  sorted : listing.Pairwise (fun a b => key a b ≠ .gt)

/-- Where the keys of the members make the order of a set, there is one arrangement by the
keys, and it lists the set. -/
theorem SortedSet.arranged_iff {α : Type} {cmp key : α → α → Ordering} [Std.TransCmp cmp]
    [Std.LawfulEqCmp cmp] {s : SortedSet α cmp} (agrees : ∀ a ∈ s, ∀ b ∈ s, key a b = cmp a b)
    {listing : List α} : Arranged key (· ∈ s) listing ↔ listing = s.toList := by
  have distinct := s.nodup
  have sorted : s.toList.Pairwise (fun a b => key a b ≠ .gt) := by
    apply s.increasing.imp_of_mem
    intro a b memberA memberB less
    rw [agrees a memberA b memberB, less]
    simp
  constructor
  · intro arranged
    have permuted : listing.Perm s.toList :=
      (List.perm_ext_iff_of_nodup arranged.distinct distinct).mpr arranged.members
    refine permuted.eq_of_pairwise ?_ arranged.sorted sorted
    intro a b listed there notAbove notBelow
    have memberA := (arranged.members a).mp listed
    rw [agrees a memberA b there] at notAbove
    rw [agrees b there a memberA] at notBelow
    cases compared : cmp a b with
    | lt => exact absurd (Std.OrientedCmp.gt_of_lt compared) notBelow
    | gt => exact absurd compared notAbove
    | eq => exact Std.LawfulEqCmp.eq_of_compare compared
  · intro same
    subst same
    exact ⟨distinct, fun _ => Iff.rfl, sorted⟩

namespace LevelLattice.Lawful

variable {α : Type} {K : LevelLattice α} {levels others : List α}

theorem joinAll_congr (lawful : K.Lawful) (known : ∀ l ∈ levels, l ∈ K.elements)
    (same : ∀ l, l ∈ levels ↔ l ∈ others) : K.joinAll levels = K.joinAll others := by
  have knownOthers : ∀ l ∈ others, l ∈ K.elements := fun l member => known l ((same l).mpr member)
  have joined := lawful.joinAll_mem known
  have joinedOthers := lawful.joinAll_mem knownOthers
  apply lawful.antisymm _ joined _ joinedOthers
  · apply lawful.joinAll_le known joinedOthers
    intro l member
    exact lawful.le_joinAll knownOthers ((same l).mp member)
  · apply lawful.joinAll_le knownOthers joined
    intro l member
    exact lawful.le_joinAll known ((same l).mpr member)

theorem meetAll_congr (lawful : K.Lawful) (known : ∀ l ∈ levels, l ∈ K.elements)
    (same : ∀ l, l ∈ levels ↔ l ∈ others) : K.meetAll levels = K.meetAll others :=
  lawful.dual.joinAll_congr known same

end LevelLattice.Lawful

/-- A constraint as it is supplied, with its sides in the order in which they were given. -/
structure Supply where
  lhs : Operand
  kind : Kind
  rhs : Operand
  deriving DecidableEq

namespace Supply

def constraint (s : Supply) : Flow := .make s.lhs s.kind s.rhs

/-- Equal supplies, or a compatibility with its sides exchanged. -/
def Matches (s t : Supply) : Prop :=
  s = t ∨ s.kind = .compatible ∧ t = ⟨s.rhs, s.kind, s.lhs⟩

instance (s t : Supply) : Decidable (s.Matches t) :=
  inferInstanceAs (Decidable (s = t ∨ s.kind = .compatible ∧ t = ⟨s.rhs, s.kind, s.lhs⟩))

theorem constraint_eq_iff {s t : Supply} : s.constraint = t.constraint ↔ s.Matches t := by
  obtain ⟨a, kind, b⟩ := s
  obtain ⟨a', kind', b'⟩ := t
  constructor
  · intro same
    obtain ⟨kinds, straight | exchanged⟩ := Constraint.eq_or_swapped_of_make_eq same
    · obtain ⟨left, right⟩ := straight
      subst kinds left right
      exact Or.inl rfl
    · obtain ⟨compatible, left, right⟩ := exchanged
      subst kinds left right
      exact Or.inr ⟨compatible, rfl⟩
  · intro agree
    rcases agree with same | ⟨compatible, exchanged⟩
    · rw [same]
    · subst compatible
      rw [exchanged]
      exact Constraint.make_compatible_comm a b

end Supply

/-- Each supply of either sequence matches one of the other: they have the same members,
whatever their order, their repetitions and the sides of their compatibilities. -/
def SameSupply (first second : List Supply) : Prop :=
  (∀ s ∈ first, ∃ t ∈ second, s.Matches t) ∧ ∀ t ∈ second, ∃ s ∈ first, t.Matches s

namespace ConstraintSet

def supplied (calls : List Supply) : ConstraintSet := ofList (calls.map Supply.constraint)

theorem mem_supplied {calls : List Supply} {c : Flow} :
    c ∈ supplied calls ↔ ∃ s ∈ calls, s.constraint = c := by
  simp [supplied]

theorem supplied_eq_iff {first second : List Supply} :
    supplied first = supplied second ↔ SameSupply first second := by
  have covered : ∀ l m : List Supply, (∀ c ∈ supplied l, c ∈ supplied m) ↔
      ∀ s ∈ l, ∃ t ∈ m, s.Matches t := by
    intro l m
    constructor
    · intro included s member
      obtain ⟨t, there, same⟩ := mem_supplied.mp (included _ (mem_supplied.mpr ⟨s, member, rfl⟩))
      exact ⟨t, there, Supply.constraint_eq_iff.mp same.symm⟩
    · intro matched c member
      obtain ⟨s, listed, same⟩ := mem_supplied.mp member
      obtain ⟨t, there, agree⟩ := matched s listed
      exact mem_supplied.mpr ⟨t, there, (Supply.constraint_eq_iff.mpr agree).symm.trans same⟩
  constructor
  · intro same
    refine ⟨(covered first second).mp ?_, (covered second first).mp ?_⟩
    · intro c member
      exact same ▸ member
    · intro c member
      exact same ▸ member
  · intro same
    apply ext_mem
    intro c
    exact ⟨(covered first second).mpr same.1 c, (covered second first).mpr same.2 c⟩

theorem over_supplied {K : LevelLattice Level} {calls : List Supply}
    (known : ∀ s ∈ calls, s.lhs.Known K ∧ s.rhs.Known K) : (supplied calls).Over K := by
  apply over_iff_sides.mpr
  intro c member
  obtain ⟨s, listed, same⟩ := mem_supplied.mp member
  subst same
  obtain ⟨knownLeft, knownRight⟩ := known s listed
  exact Constraint.make_both knownLeft knownRight s.kind

end ConstraintSet

/-- The keys of operands over a domain never tie, and those of constraints neither; a
compatibility has the side with the smaller key on its left. -/
structure KeysTell (domain : Domain) : Prop where
  operands : ∀ a b : Operand, a.Known domain.lattice → b.Known domain.lattice →
    (a.keyOrder b = .eq ↔ a = b)
  constraints : ∀ c d : Flow, c.lhs.Known domain.lattice ∧ c.rhs.Known domain.lattice →
    d.lhs.Known domain.lattice ∧ d.rhs.Known domain.lattice → (c.keyOrder d = .eq ↔ c = d)
  sides : ∀ a b : Operand, a.Known domain.lattice → b.Known domain.lattice →
    (Constraint.make a .compatible b).lhs.keyOrder (Constraint.make a .compatible b).rhs ≠ .gt

/-- No order of traversal that the members of a set leave open shows in what is computed from
it: the keys arrange its constraints and its nodes in one way, and the bounds of a node are the
same in whatever order, and however often, the levels around it are met. -/
structure OrderFree (domain : Domain) (cs : ConstraintSet) : Prop where
  constraints : ∀ listing, Arranged Flow.keyOrder (· ∈ cs) listing ↔ listing = cs.toList
  nodes : ∀ listing, Arranged Operand.keyOrder (Mentioned cs) listing ↔
    listing = (FlowGraph.ofSet cs).nodes
  lowest : ∀ n : Operand, n.Known domain.lattice → ∀ levels : List Level,
    (∀ l, l ∈ levels ↔ l ∈ (Closure.ofSet domain.lattice cs).lowerLevels n) →
      domain.joinLevels? levels = .ok ((Closure.ofSet domain.lattice cs).lowestLevel n)
  highest : ∀ n : Operand, n.Known domain.lattice → ∀ levels : List Level,
    (∀ l, l ∈ levels ↔ l ∈ (Closure.ofSet domain.lattice cs).upperLevels n) →
      domain.meetLevels? levels = .ok ((Closure.ofSet domain.lattice cs).highestLevel n)

/-- Two sets give the same results, and give them without being refused. The closure carries
the nodes, the derived flows with their chains, the forbidden flows and the reason. -/
structure SameResults (domain : Domain) (cs ds : ConstraintSet) : Prop where
  listing : cs.toList = ds.toList
  closure : ∃ c, Checked.closure domain cs = .ok c ∧ Checked.closure domain ds = .ok c
  minimized : ∃ r, Checked.minimize domain cs = .ok r ∧ Checked.minimize domain ds = .ok r
  projected : ∀ onto, ∃ r, Checked.project domain cs onto = .ok r ∧
    Checked.project domain ds onto = .ok r
  assigned : ∀ fixed, ∃ r, Checked.leastAssignment domain cs fixed = .ok r ∧
    Checked.leastAssignment domain ds fixed = .ok r
  explained : ∀ tags, cs.conflicts domain.lattice tags = ds.conflicts domain.lattice tags

section Results

variable {domain : Domain} {cs : ConstraintSet}

theorem keysTell (built : domain.Built) : KeysTell domain where
  operands a b knownA knownB := by
    rw [Operand.keyOrder_eq built knownA knownB]
    exact Std.LawfulEqOrd.compare_eq_iff_eq
  constraints c d knownC knownD := by
    rw [Flow.keyOrder_eq built knownC knownD]
    exact Std.LawfulEqCmp.compare_eq_iff_eq
  sides a b knownA knownB := by
    obtain ⟨knownLeft, knownRight⟩ := Constraint.make_both knownA knownB .compatible
    rw [Operand.keyOrder_eq built knownLeft knownRight]
    intro greater
    exact (Constraint.make a .compatible b).normal (Constraint.make_kind a b .compatible)
      (Std.OrientedCmp.lt_of_gt greater)

theorem orderFree (built : domain.Built) (based : cs.Over domain.lattice) :
    OrderFree domain cs := by
  refine ⟨?_, ?_, ?_, ?_⟩
  · intro listing
    apply SortedSet.arranged_iff
    intro c memberC d memberD
    exact Flow.keyOrder_eq built (based.known memberC) (based.known memberD)
  · intro listing
    have mentioned : (· ∈ (FlowGraph.ofSet cs).nodes) = Mentioned cs :=
      funext fun n => propext FlowGraph.mem_nodes
    rw [← mentioned]
    apply SortedSet.arranged_iff (s := ⟨_, FlowGraph.nodes_increasing cs⟩)
    intro a memberA b memberB
    have known := ConstraintSet.over_iff.mp based
    exact Operand.keyOrder_eq built (known a (FlowGraph.mem_nodes.mp memberA))
      (known b (FlowGraph.mem_nodes.mp memberB))
  · intro n known levels same
    have listed := Closure.lowerLevels_known based known
    have belongs : ∀ l ∈ levels, l ∈ domain.lattice.elements :=
      fun l member => listed l ((same l).mp member)
    rw [built.joinLevels?_eq belongs, built.lawful.joinAll_congr belongs same]
    rfl
  · intro n known levels same
    have listed := Closure.upperLevels_known based known
    have belongs : ∀ l ∈ levels, l ∈ domain.lattice.elements :=
      fun l member => listed l ((same l).mp member)
    rw [built.meetLevels?_eq belongs, built.lawful.meetAll_congr belongs same]
    rfl

theorem sameResults_self (built : domain.Built) (based : cs.Over domain.lattice) :
    SameResults domain cs cs where
  listing := rfl
  closure := ⟨_, Checked.closure_eq built based, Checked.closure_eq built based⟩
  minimized := ⟨_, Checked.minimize_eq built based, Checked.minimize_eq built based⟩
  projected onto := ⟨_, Checked.project_eq built based onto, Checked.project_eq built based onto⟩
  assigned fixed :=
    ⟨_, Checked.leastAssignment_eq built based fixed, Checked.leastAssignment_eq built based fixed⟩
  explained _ := rfl

/-- Results depend on the constraints, not on how they were supplied: sequences with the same
members, in whatever order, with whatever repetitions and with the sides of compatibilities
exchanged, give the same results. No key ties, so in no set that is formed on the way could
another order of traversal show. -/
theorem results_from_members (built : domain.Built) {first second : List Supply}
    (known : ∀ s ∈ first, s.lhs.Known domain.lattice ∧ s.rhs.Known domain.lattice)
    (same : SameSupply first second) :
    KeysTell domain ∧ (∀ cs : ConstraintSet, cs.Over domain.lattice → OrderFree domain cs) ∧
      SameResults domain (.supplied first) (.supplied second) := by
  rw [← ConstraintSet.supplied_eq_iff.mpr same]
  exact ⟨keysTell built, fun _ based => orderFree built based,
    sameResults_self built (ConstraintSet.over_supplied known)⟩

/-- Data of both principals that flows where data of one of them is allowed. -/
def leakSupply : List Supply :=
  let x : Operand := .var ⟨1, .fresh, 0⟩
  let level (names : List String) : Operand := .literal (.level (Powerset.levelOf names))
  [⟨level ["bob", "alice"], .flow, x⟩, ⟨x, .flow, level ["alice"]⟩, ⟨x, .compatible, level ["bob"]⟩]

/-- The same from the back, with a repetition and the sides of the compatibility exchanged. -/
def leakSupplyAgain : List Supply :=
  let x : Operand := .var ⟨1, .fresh, 0⟩
  let level (names : List String) : Operand := .literal (.level (Powerset.levelOf names))
  [⟨level ["bob"], .compatible, x⟩, ⟨x, .flow, level ["alice"]⟩, ⟨x, .flow, level ["alice"]⟩,
    ⟨level ["alice", "bob"], .flow, x⟩]

theorem results_from_members_leak :
    let domain := Domain.powerset ⟨["bob", "alice"]⟩
    domain.Built ∧ (∀ s ∈ leakSupply, s.lhs.Known domain.lattice ∧ s.rhs.Known domain.lattice) ∧
      SameSupply leakSupply leakSupplyAgain ∧
      SameResults domain (.supplied leakSupply) (.supplied leakSupplyAgain) := by
  intro domain
  have built : domain.Built := .powerset (rfl : Powerset.ofPrincipals ["bob", "alice"] = .ok _)
  have known : ∀ s ∈ leakSupply, s.lhs.Known domain.lattice ∧ s.rhs.Known domain.lattice := by
    decide +kernel
  have same : SameSupply leakSupply leakSupplyAgain := by
    unfold SameSupply
    decide +kernel
  exact ⟨built, known, same, (results_from_members built known same).2.2⟩

end Results

end FlowTyping
