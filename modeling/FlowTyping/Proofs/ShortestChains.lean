import FlowTyping.Proofs.Reachability

namespace FlowTyping

universe u v

variable {α : Type u} {ε : Type v} {arcs : List (Arc α ε)} {start : α}

namespace Reachability

variable {seen : List α} {frontier : List (Found α ε)} {found : Found α ε} {depth count : Nat}

/-- Where the walk stands when it has come to a depth. -/
structure AtDepth (arcs : List (Arc α ε)) (start : α) (depth : Nat) (seen : List α)
    (frontier : List (Found α ε)) : Prop where
  path : ∀ f ∈ frontier, Path arcs start f.node f.chain
  length : ∀ f ∈ frontier, f.chain.length = depth
  answered : Answered arcs seen frontier
  near : ∀ {node : α} {chain : List ε}, Path arcs start node chain → chain.length ≤ depth →
    node ∈ seen

theorem atDepth_start : AtDepth arcs start 0 [start] [⟨start, []⟩] := by
  refine ⟨?_, ?_, ?_, ?_⟩
  · intro f member
    rw [List.mem_singleton.mp member]
    exact .here
  · intro f member
    rw [List.mem_singleton.mp member]
    rfl
  · intro arc _ reached
    exact Or.inr ⟨⟨start, []⟩, by simp, (List.mem_singleton.mp reached).symm⟩
  · intro node chain path short
    cases path with
    | here => simp
    | step before member leaves => simp at short

variable [DecidableEq α]

namespace AtDepth

theorem next (here : AtDepth arcs start depth seen frontier) :
    AtDepth arcs start (depth + 1) (seen ++ (nextLayer arcs seen frontier).map Found.node)
      (nextLayer arcs seen frontier) := by
  refine ⟨?_, ?_, here.answered.next, ?_⟩
  · intro f member
    obtain ⟨_, before, there, arc, among, leaves, rfl⟩ := mem_nextLayer member
    exact .step (here.path before there) among leaves
  · intro f member
    obtain ⟨_, before, there, arc, among, leaves, rfl⟩ := mem_nextLayer member
    simp [here.length before there]
  · intro node chain path short
    cases path with
    | here => exact List.mem_append_left _ (here.near .here (Nat.zero_le depth))
    | step before member leaves =>
      rw [List.length_append, List.length_singleton] at short
      have source := leaves ▸ here.near before (Nat.le_of_succ_le_succ short)
      have answer := here.answered.next _ member (List.mem_append_left _ source)
      rcases answer with target | ⟨f, new, same⟩
      · exact target
      · -- The source was seen before, so it is not a finding of this layer.
        exact absurd (same ▸ source) (mem_nextLayer new).1

theorem shortest_next (here : AtDepth arcs start depth seen frontier)
    (member : found ∈ nextLayer arcs seen frontier) {chain : List ε}
    (path : Path arcs start found.node chain) : found.chain.length ≤ chain.length := by
  rw [here.next.length found member]
  apply Nat.lt_of_not_le
  intro short
  exact (mem_nextLayer member).1 (here.near path short)

/-- What the layers list lies deeper and has no shorter chain. -/
theorem shortest (here : AtDepth arcs start depth seen frontier)
    (member : found ∈ layers arcs count seen frontier) :
    depth < found.chain.length ∧
      ∀ chain, Path arcs start found.node chain → found.chain.length ≤ chain.length := by
  induction count generalizing depth seen frontier with
  | zero => simp [layers] at member
  | succ count ih =>
    rw [layers_succ] at member
    split at member
    · simp at member
    · rcases List.mem_append.mp member with next | later
      · have length := here.next.length found next
        exact ⟨by omega, fun chain path => here.shortest_next next path⟩
      · obtain ⟨deeper, minimal⟩ := ih here.next later
        exact ⟨by omega, minimal⟩

end AtDepth

/-- Of findings at one node only the first is kept. -/
theorem unseen_pairwise (seen : List α) (l : List (Found α ε)) :
    (unseen seen l).Pairwise (fun f g => f.node ≠ g.node) := by
  induction l generalizing seen with
  | nil => exact .nil
  | cons first rest ih =>
    rw [unseen]
    split
    · exact ih seen
    · refine List.pairwise_cons.mpr ⟨?_, ih _⟩
      intro later member same
      apply (mem_of_mem_unseen member).2
      simp [same]

/-- The layers list every node once, by the length of its chain. -/
theorem AtDepth.layers_pairwise (here : AtDepth arcs start depth seen frontier) (count : Nat) :
    (layers arcs count seen frontier).Pairwise
      (fun f g => f.node ≠ g.node ∧ f.chain.length ≤ g.chain.length) := by
  induction count generalizing depth seen frontier with
  | zero => exact .nil
  | succ count ih =>
    rw [layers_succ]
    split
    · exact .nil
    · refine List.pairwise_append.mpr ⟨?_, ih here.next, ?_⟩
      · refine (unseen_pairwise _ _).imp_of_mem ?_
        intro f g first second apart
        have lengths := (here.next.length f first).trans (here.next.length g second).symm
        exact ⟨apart, Nat.le_of_eq lengths⟩
      · intro f now g later
        have fresh := (path_of_mem_layers here.next.path later).1
        have deeper := (here.next.shortest later).1
        constructor
        · intro same
          exact fresh (List.mem_append_right _ (List.mem_map.mpr ⟨f, now, same⟩))
        · have length := here.next.length f now
          omega

/-- The walk lists nodes with chains that lead to them, than which none is shorter. -/
theorem shortest_of_mem_reach (member : found ∈ reach arcs start) :
    Path arcs start found.node found.chain ∧
      ∀ chain, Path arcs start found.node chain → found.chain.length ≤ chain.length :=
  ⟨(path_of_mem_layers atDepth_start.path member).2, (atDepth_start.shortest member).2⟩

theorem reach_pairwise (arcs : List (Arc α ε)) (start : α) :
    (reach arcs start).Pairwise
      (fun f g => f.node ≠ g.node ∧ f.chain.length ≤ g.chain.length) :=
  atDepth_start.layers_pairwise arcs.length

end Reachability

end FlowTyping
