import FlowTyping.Proofs.ConflictDiagnosis
import FlowTyping.Proofs.WalkingLoops

namespace FlowTyping

variable {cs : ConstraintSet} {along : Kind → Prop} {a b : Operand} {chain : List Flow}

/-- The constraints of a list lead, one after the other, from an operand to another. -/
def Contiguous : List Flow → Operand → Operand → Prop
  | [], a, b => a = b
  | c :: rest, a, b => c.lhs = a ∧ Contiguous rest c.rhs b

namespace Contiguous

theorem snoc {c : Flow} (leads : Contiguous chain a c.lhs) :
    Contiguous (chain ++ [c]) a c.rhs := by
  induction chain generalizing a with
  | nil => exact ⟨leads.symm, rfl⟩
  | cons first rest ih => exact ⟨leads.1, ih leads.2⟩

theorem leads (contiguous : Contiguous chain a b) (flows : ∀ c ∈ chain, c.kind = .flow) :
    Leads chain a b := by
  induction chain generalizing a with
  | nil => exact contiguous
  | cons first rest ih =>
    have later := ih contiguous.2 fun c member => flows c (List.mem_cons_of_mem first member)
    exact ⟨flows first List.mem_cons_self, contiguous.1, later⟩

theorem joined (contiguous : Contiguous chain a b) (part : ∀ c ∈ chain, c ∈ cs ∧ along c.kind) :
    Relation.ReflTransGen (Joined cs along) a b := by
  induction chain generalizing a with
  | nil => exact contiguous ▸ .refl
  | cons first rest ih =>
    obtain ⟨leaves, later⟩ := contiguous
    obtain ⟨member, kind⟩ := part first List.mem_cons_self
    have behind := ih later fun c listed => part c (List.mem_cons_of_mem first listed)
    exact .head ⟨first, member, kind, leaves, rfl⟩ behind

end Contiguous

/-- A chain of one or more constraints of a set that are of a kind to follow and not trivial. -/
structure ProperChain (cs : ConstraintSet) (along : Kind → Prop) (a b : Operand)
    (chain : List Flow) : Prop where
  nonempty : chain ≠ []
  part : ∀ c ∈ chain, c ∈ cs ∧ along c.kind ∧ c.lhs ≠ c.rhs
  contiguous : Contiguous chain a b

/-- Links between operands make a chain of constraints, in which those that stay where they are
can be left out. -/
theorem exists_contiguous (links : Relation.ReflTransGen (Joined cs along) a b) :
    ∃ chain, (∀ c ∈ chain, c ∈ cs ∧ along c.kind ∧ c.lhs ≠ c.rhs) ∧ Contiguous chain a b := by
  induction links using Relation.ReflTransGen.head_induction_on with
  | refl => exact ⟨[], by simp, rfl⟩
  | head link _ ih =>
    obtain ⟨c, member, kind, leaves, arrives⟩ := link
    obtain ⟨chain, part, contiguous⟩ := ih
    subst leaves arrives
    by_cases trivial : c.lhs = c.rhs
    · exact ⟨chain, part, trivial ▸ contiguous⟩
    · refine ⟨c :: chain, ?_, rfl, contiguous⟩
      intro d listed
      rcases List.mem_cons.mp listed with same | later
      · exact same ▸ ⟨member, kind, trivial⟩
      · exact part d later

theorem exists_properChain_iff (apart : a ≠ b) :
    (∃ chain, ProperChain cs along a b chain) ↔ Relation.ReflTransGen (Joined cs along) a b := by
  constructor
  · intro exist
    obtain ⟨chain, proper⟩ := exist
    apply proper.contiguous.joined
    intro c member
    obtain ⟨there, kind, _⟩ := proper.part c member
    exact ⟨there, kind⟩
  · intro links
    obtain ⟨chain, part, contiguous⟩ := exists_contiguous links
    refine ⟨chain, ?_, part, contiguous⟩
    intro empty
    subst empty
    exact apart contiguous

namespace FlowGraph

theorem contiguous_of_path (path : Path (flowArcs cs.toList) a b chain) :
    (∀ c ∈ chain, c ∈ cs ∧ c.kind = .flow ∧ c.lhs ≠ c.rhs) ∧ Contiguous chain a b := by
  induction path with
  | here => exact ⟨by simp, rfl⟩
  | step before member leaves ih =>
    obtain ⟨c, there, kind, apart, rfl⟩ := mem_flowArcs.mp member
    obtain ⟨part, contiguous⟩ := ih
    subst leaves
    refine ⟨?_, contiguous.snoc⟩
    intro d listed
    rcases List.mem_append.mp listed with earlier | last
    · exact part d earlier
    · rw [List.mem_singleton.mp last]
      exact ⟨there, kind, apart⟩

/-- What stands behind an operand is what the walk from it finds; from an operand that is no node
it finds nothing. -/
theorem successors_eq_reach (cs : ConstraintSet) (a : Operand) :
    (ofSet cs).successors a = Reachability.reach (flowArcs cs.toList) a := by
  rw [successors_eq]
  split
  · rfl
  · rename_i missing
    symm
    apply List.eq_nil_iff_forall_not_mem.mpr
    intro found member
    obtain ⟨part, contiguous⟩ := contiguous_of_path (Reachability.shortest_of_mem_reach member).1
    have other := (Reachability.mem_reach_iff.mp (List.mem_map.mpr ⟨found, member, rfl⟩)).1
    cases chain : found.chain with
    | nil =>
      rw [chain] at contiguous
      exact other contiguous.symm
    | cons first rest =>
      rw [chain] at part contiguous
      have inside := (part first List.mem_cons_self).1
      exact missing (mem_nodes.mpr ⟨first, inside, Or.inl contiguous.1⟩)

/-- The row of an operand in the table of flows: the loop that fills it ends with it; it lists
exactly the other operands that proper chains of `<=` lead to, each once, each with such a chain
than which none is shorter, and by the length of these chains. -/
structure FlowRow (cs : ConstraintSet) (a : Operand) : Prop where
  ends : WellFounded fun next w => QueueWalk.next? (flowArcs cs.toList) a w = some next
  walked : QueueWalk.Goes (flowArcs cs.toList) a (.outset a) ⟨[], (ofSet cs).successors a⟩
  listed : ∀ b, (∃ f ∈ (ofSet cs).successors a, f.node = b) ↔
    a ≠ b ∧ ∃ chain, ProperChain cs (· = .flow) a b chain
  chained : ∀ f ∈ (ofSet cs).successors a, ProperChain cs (· = .flow) a f.node f.chain
  shortest : ∀ f ∈ (ofSet cs).successors a, ∀ other, ProperChain cs (· = .flow) a f.node other →
    f.chain.length ≤ other.length
  ordered : ((ofSet cs).successors a).Pairwise
    fun f g => f.node ≠ g.node ∧ f.chain.length ≤ g.chain.length

/-- The row of an operand in the table of spreading: the loop that fills it comes to an end
whichever node it takes and however it orders what it finds, and always with the operands of the
row, the other operands that proper chains of `<=` and `=>` lead to. -/
structure SpreadRow (cs : ConstraintSet) (a : Operand) : Prop where
  ends : WellFounded fun next e => Exploration.Turn (spreadArcs cs.toList) a e next
  goesOn : ∀ e : Exploration Operand, e.waiting ≠ [] →
    ∃ next, Exploration.Turn (spreadArcs cs.toList) a e next
  finishes : ∃ e, Exploration.Turns (spreadArcs cs.toList) a (.outset a) e ∧ e.waiting = []
  walked : ∀ e, Exploration.Turns (spreadArcs cs.toList) a (.outset a) e → e.waiting = [] →
    e.found.Nodup ∧ ∀ b, b ∈ e.found ↔ b ∈ (ofSet cs).spreadsTo a
  listed : ∀ b, b ∈ (ofSet cs).spreadsTo a ↔
    a ≠ b ∧ ∃ chain, ProperChain cs (· ≠ .compatible) a b chain

theorem flowRow (cs : ConstraintSet) (a : Operand) : FlowRow cs a where
  ends := QueueWalk.wellFounded_next? (flowArcs cs.toList) a
  walked := by
    rw [successors_eq_reach]
    exact QueueWalk.goes_reach (flowArcs cs.toList) a
  listed b := by
    rw [← List.mem_map, mem_successors]
    exact and_congr_right fun apart => (exists_properChain_iff apart).symm
  chained f member := by
    have apart := (mem_successors.mp (List.mem_map.mpr ⟨f, member, rfl⟩)).1
    rw [successors_eq_reach] at member
    obtain ⟨part, contiguous⟩ := contiguous_of_path (Reachability.shortest_of_mem_reach member).1
    refine ⟨?_, part, contiguous⟩
    intro empty
    rw [empty] at contiguous
    exact apart contiguous
  shortest f member other proper := by
    apply (shortestChain_of_mem_successors member).shortest other
    · exact fun c listed => (proper.part c listed).1
    · exact proper.contiguous.leads fun c listed => (proper.part c listed).2.1
  ordered := successors_pairwise cs a

theorem spreadRow (cs : ConstraintSet) (a : Operand) : SpreadRow cs a where
  ends := Exploration.wellFounded_turn (spreadArcs cs.toList) a
  goesOn _ waits := Exploration.exists_turn waits
  finishes := Exploration.exists_end (spreadArcs cs.toList) a (.outset a)
  walked e turns finished := by
    have sound := (Exploration.Sound.outset (spreadArcs cs.toList) a).turns turns
    refine ⟨sound.distinct, fun b => ?_⟩
    rw [sound.mem_found_iff finished, ne_comm, mem_spreadsTo, linked_spreadArcs_iff]
  listed b := by
    rw [mem_spreadsTo]
    exact and_congr_right fun apart => (exists_properChain_iff apart).symm

/-- Both tables are complete, and every chain that is kept is a shortest one. -/
theorem rows_complete (cs : ConstraintSet) (a : Operand) : FlowRow cs a ∧ SpreadRow cs a :=
  ⟨flowRow cs a, spreadRow cs a⟩

end FlowGraph

end FlowTyping
