import FlowTyping.Proofs.Satisfiability

namespace FlowTyping

variable {K : LevelLattice Level} {cs : ConstraintSet} {σ : Valuation} {D : Demands}
variable {n : Operand} {dyn static pub : List Operand}

/-- The demand that some operands be dynamic and others hold any level. -/
def Demands.ofKinds (K : LevelLattice Level) (dyn static : List Operand) : Demands :=
  ⟨dyn, static.map (fun n => (n, K.bottom))⟩

theorem Demands.ofKinds_known (lawful : K.Lawful) (dynKnown : ∀ n ∈ dyn, n.Known K)
    (staticKnown : ∀ n ∈ static, n.Known K) : (Demands.ofKinds K dyn static).Known K := by
  refine ⟨dynKnown, ?_, ?_⟩
  · simpa [Demands.ofKinds] using staticKnown
  · simp only [Demands.ofKinds, List.mem_map]
    rintro p ⟨n, _, rfl⟩
    exact lawful.bottom_mem

theorem Demands.ofKinds_met (lawful : K.Lawful) (staticKnown : ∀ n ∈ static, n.Known K)
    (belongs : ∀ v, (σ v).Belongs K) :
    (Demands.ofKinds K dyn static).Met K σ ↔
      (∀ n ∈ dyn, n.value σ = .dyn) ∧ ∀ n ∈ static, ∃ l, n.value σ = .level l := by
  have level : ∀ n ∈ static,
      (Value.le K (.level K.bottom) (n.value σ) = true ↔ ∃ l, n.value σ = .level l) :=
    fun n member => Value.bottom_le_iff lawful ((staticKnown n member).belongs belongs)
  constructor
  · rintro ⟨dynamic, levels⟩
    refine ⟨dynamic, fun n member => (level n member).mp ?_⟩
    exact levels (n, K.bottom) (List.mem_map.mpr ⟨n, member, rfl⟩)
  · rintro ⟨dynamic, levels⟩
    refine ⟨dynamic, ?_⟩
    simp only [Demands.ofKinds, List.mem_map]
    rintro p ⟨n, member, rfl⟩
    exact (level n member).mpr (levels n member)

theorem least_eq_pub : least K cs D n = .pub ↔ ¬ DynInto cs D n ∧ levelsInto cs D n = [] := by
  unfold least
  split
  · rename_i dynamic
    simp [dynamic]
  · rename_i static
    split <;> simp_all

namespace Closure

/-- Membership in a list of nodes that are there beforehand, are chosen, or follow a chosen
one by a chain. -/
private theorem mem_spread {along : Kind → Prop} {base chosen : List Operand}
    {next : Operand → List Operand} {Source : Operand → Prop}
    (bases : ∀ n, n ∈ base ↔ Mentioned cs n ∧ Source n)
    (nexts : ∀ a b, b ∈ next a ↔ a ≠ b ∧ Relation.ReflTransGen (Joined cs along) a b) :
    n ∈ base ++ chosen ++ chosen.flatMap next ↔
      (Mentioned cs n ∧ Source n) ∨
        ∃ d ∈ chosen, Relation.ReflTransGen (Joined cs along) d n := by
  simp only [List.mem_append, List.mem_flatMap, bases, nexts, or_assoc]
  apply or_congr_right
  constructor
  · rintro (member | ⟨d, member, _, chain⟩)
    · exact ⟨n, member, .refl⟩
    · exact ⟨d, member, chain⟩
  · rintro ⟨d, member, chain⟩
    by_cases same : d = n
    · exact Or.inl (same ▸ member)
    · exact Or.inr ⟨d, member, same, chain⟩

/-- The nodes that are dynamic once some are. -/
def madeDyn (c : Closure) (dyn : List Operand) : List Operand :=
  c.forced ++ dyn ++ dyn.flatMap c.graph.spreadsTo

/-- The nodes that are levels once some are. -/
def madeStatic (c : Closure) (static : List Operand) : List Operand :=
  c.static ++ static ++ static.flatMap (fun n => (c.graph.successors n).map Found.node)

theorem mem_madeDyn :
    n ∈ (ofSet K cs).madeDyn dyn ↔
      (Mentioned cs n ∧ Spreads cs (.literal .dyn) n) ∨ ∃ d ∈ dyn, Spreads cs d n :=
  mem_spread (fun _ => FlowGraph.mem_forcedNodes) (fun _ _ => FlowGraph.mem_spreadsTo)

theorem mem_madeStatic :
    n ∈ (ofSet K cs).madeStatic static ↔
      (Mentioned cs n ∧ ∃ l, Flows cs (.literal (.level l)) n) ∨ ∃ d ∈ static, Flows cs d n :=
  mem_spread (fun _ => FlowGraph.mem_staticNodes) (fun _ _ => FlowGraph.mem_successors)

theorem dynInto_iff :
    DynInto cs (.ofKinds K dyn static) n ↔
      n = .literal .dyn ∨ n ∈ (ofSet K cs).madeDyn dyn := by
  rw [mem_madeDyn, ← or_assoc, eq_comm, ← chain_iff]
  exact Iff.rfl

theorem levelsInto_iff :
    levelsInto cs (.ofKinds K dyn static) n ≠ [] ↔
      (∃ l, n = .literal (.level l)) ∨ n ∈ (ofSet K cs).madeStatic static := by
  have literals : (∃ l, Flows cs (.literal (.level l)) n) ↔
      (∃ l, n = .literal (.level l)) ∨ Mentioned cs n ∧ ∃ l, Flows cs (.literal (.level l)) n := by
    constructor
    · rintro ⟨l, flows⟩
      rcases chain_iff.mp flows with same | ⟨mentioned, chain⟩
      · exact Or.inl ⟨l, same.symm⟩
      · exact Or.inr ⟨mentioned, l, chain⟩
    · rintro (⟨l, rfl⟩ | ⟨_, flows⟩)
      · exact ⟨l, .refl⟩
      · exact flows
  rw [levelsInto_ne_nil_iff, mem_madeStatic, ← or_assoc, ← literals]
  simp only [Demands.ofKinds, List.mem_map]
  apply or_congr_right
  constructor
  · rintro ⟨_, ⟨d, member, rfl⟩, flows⟩
    exact ⟨d, member, flows⟩
  · rintro ⟨d, member, flows⟩
    exact ⟨_, ⟨d, member, rfl⟩, flows⟩

theorem madeDyn_known (based : cs.Over K) (dynKnown : ∀ n ∈ dyn, n.Known K) :
    ∀ n ∈ (ofSet K cs).madeDyn dyn, n.Known K := by
  intro n listed
  rcases mem_madeDyn.mp listed with ⟨mentioned, _⟩ | ⟨d, member, spreads⟩
  · exact ConstraintSet.over_iff.mp based n mentioned
  · exact known_of_chain based (dynKnown d member) spreads

theorem madeStatic_known (based : cs.Over K) (staticKnown : ∀ n ∈ static, n.Known K) :
    ∀ n ∈ (ofSet K cs).madeStatic static, n.Known K := by
  intro n listed
  rcases mem_madeStatic.mp listed with ⟨mentioned, _⟩ | ⟨d, member, flows⟩
  · exact ConstraintSet.over_iff.mp based n mentioned
  · exact known_of_chain based (staticKnown d member) flows

def turnsDyn (c : Closure) (dyn : List Operand) (n : Operand) : Bool :=
  n.isDyn || decide (n ∈ c.madeDyn dyn)

def turnsStatic (c : Closure) (static : List Operand) (n : Operand) : Bool :=
  n.isStatic || decide (n ∈ c.madeStatic static)

theorem turnsDyn_eq :
    (ofSet K cs).turnsDyn dyn n = decide (DynInto cs (.ofKinds K dyn static) n) := by
  rw [Bool.eq_iff_iff, decide_eq_true_iff, dynInto_iff]
  simp [turnsDyn]

theorem turnsStatic_eq :
    (ofSet K cs).turnsStatic static n =
      decide (levelsInto cs (.ofKinds K dyn static) n ≠ []) := by
  rw [Bool.eq_iff_iff, decide_eq_true_iff, levelsInto_iff]
  simp [turnsStatic]

theorem admits_eq (c : Closure) :
    c.admits dyn static pub =
      (c.isSat && !(c.madeDyn dyn).any (c.turnsStatic static) &&
        !(c.madeStatic static).any (c.turnsDyn dyn) &&
        !pub.any (fun n => c.turnsDyn dyn n || c.turnsStatic static n) &&
        !c.graph.compatibilities.any (fun k =>
          (c.turnsDyn dyn k.lhs && c.turnsStatic static k.rhs) ||
            (c.turnsStatic static k.lhs && c.turnsDyn dyn k.rhs))) := rfl

theorem admits_eq_true :
    (ofSet K cs).admits dyn static pub = true ↔
      (ofSet K cs).isSat = true ∧
      (∀ n ∈ (ofSet K cs).madeDyn dyn, levelsInto cs (.ofKinds K dyn static) n = []) ∧
      (∀ n ∈ (ofSet K cs).madeStatic static, ¬ DynInto cs (.ofKinds K dyn static) n) ∧
      (∀ n ∈ pub, least K cs (.ofKinds K dyn static) n = .pub) ∧
      ∀ c ∈ (FlowGraph.ofSet cs).compatibilities,
        ¬ Clash cs (.ofKinds K dyn static) c.lhs c.rhs ∧
          ¬ Clash cs (.ofKinds K dyn static) c.rhs c.lhs := by
  have dynTest : ∀ n, (ofSet K cs).turnsDyn dyn n =
      decide (DynInto cs (.ofKinds K dyn static) n) := fun _ => turnsDyn_eq
  have staticTest : ∀ n, (ofSet K cs).turnsStatic static n =
      decide (levelsInto cs (.ofKinds K dyn static) n ≠ []) := fun _ => turnsStatic_eq
  rw [admits_eq]
  simp only [dynTest, staticTest, Bool.and_eq_true, Bool.or_eq_true, Bool.not_eq_true',
    List.any_eq_false, decide_eq_true_eq, not_or, Decidable.not_not, least_eq_pub, Clash,
    and_assoc, ofSet_graph, and_comm (a := levelsInto cs (.ofKinds K dyn static) _ ≠ [])]

/-- The tests behind `admits` amount to consistency of the demanded kinds, with nothing
coming into the operands that are to be public. -/
theorem admits_iff_consistent (lawful : K.Lawful) (based : cs.Over K)
    (dynKnown : ∀ n ∈ dyn, n.Known K) (staticKnown : ∀ n ∈ static, n.Known K) :
    (ofSet K cs).admits dyn static pub = true ↔
      Consistent K cs (.ofKinds K dyn static) ∧
        ∀ n ∈ pub, least K cs (.ofKinds K dyn static) n = .pub := by
  have demanded := Demands.ofKinds_known lawful dynKnown staticKnown
  rw [admits_eq_true]
  constructor
  · rintro ⟨sat, dynApart, staticApart, empty, calm⟩
    have plain := (isSat_iff_consistent lawful based).mp sat
    have apart : ∀ n, ¬ Clash cs (.ofKinds K dyn static) n n := by
      rintro n ⟨dynamic, holds⟩
      rcases dynInto_iff.mp dynamic with rfl | listed
      · rcases levelsInto_iff.mp holds with ⟨l, same⟩ | listed
        · simp at same
        · exact staticApart _ listed dynamic
      · exact holds (dynApart n listed)
    refine ⟨⟨fun n _ => apart n, ?_, ?_⟩, empty⟩
    · intro u known l member
      rcases mem_levelsInto.mp member with literal | ⟨p, listed, rfl, _⟩
      · exact plain.bounded u known l (mem_levelsInto.mpr (Or.inl literal))
      · obtain ⟨n, _, rfl⟩ := List.mem_map.mp listed
        exact lawful.bottom_le u known
    · intro c member kind
      by_cases same : c.lhs = c.rhs
      · rw [same]
        exact ⟨apart _, apart _⟩
      · exact calm c (FlowGraph.mem_compatibilities.mpr ⟨member, kind, same⟩)
  · rintro ⟨consistent, empty⟩
    have solved := consistent.solution lawful based demanded
    refine ⟨(isSat_iff lawful based).mpr ⟨_, solved⟩, ?_, ?_, empty, ?_⟩
    · intro n listed
      by_cases holds : levelsInto cs (.ofKinds K dyn static) n = []
      · exact holds
      · exact absurd ⟨dynInto_iff.mpr (Or.inr listed), holds⟩
          (consistent.apart n (madeDyn_known based dynKnown n listed))
    · intro n listed dynamic
      exact consistent.apart n (madeStatic_known based staticKnown n listed)
        ⟨dynamic, levelsInto_iff.mpr (Or.inr listed)⟩
    · intro c listed
      obtain ⟨member, kind, _⟩ := FlowGraph.mem_compatibilities.mp listed
      exact consistent.compatible c member kind

/-- Some solution makes the operands dynamic, levels and public as asked exactly when the
closure admits it. -/
theorem admits_iff (lawful : K.Lawful) (based : cs.Over K) (dynKnown : ∀ n ∈ dyn, n.Known K)
    (staticKnown : ∀ n ∈ static, n.Known K) (pubKnown : ∀ n ∈ pub, n.Known K) :
    (ofSet K cs).admits dyn static pub = true ↔
      ∃ σ, Solution K cs σ ∧ (∀ n ∈ dyn, n.value σ = .dyn) ∧
        (∀ n ∈ static, ∃ l, n.value σ = .level l) ∧ ∀ n ∈ pub, n.value σ = .pub := by
  have demanded := Demands.ofKinds_known lawful dynKnown staticKnown
  rw [admits_iff_consistent lawful based dynKnown staticKnown]
  constructor
  · rintro ⟨consistent, empty⟩
    have solved := consistent.solution lawful based demanded
    have met := consistent.met lawful based demanded
    obtain ⟨dynamic, levels⟩ := (Demands.ofKinds_met lawful staticKnown solved.belongs).mp met
    refine ⟨_, solved, dynamic, levels, fun n member => ?_⟩
    rw [consistent.value_least lawful based demanded (pubKnown n member)]
    exact empty n member
  · rintro ⟨σ, solution, dynamic, levels, empty⟩
    have met := (Demands.ofKinds_met lawful staticKnown solution.belongs).mpr ⟨dynamic, levels⟩
    refine ⟨solution.consistent lawful based demanded met, fun n member => ?_⟩
    have below := solution.least_le lawful based demanded met (pubKnown n member)
    rw [empty n member] at below
    exact Value.le_pub_iff.mp below

end Closure

end FlowTyping
