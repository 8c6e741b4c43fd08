import FlowTyping.Reachability
import Mathlib.Logic.Relation

/-!
The breadth-first walk finds exactly the nodes that a chain of arcs leads to. One layer
keeps two facts: what it finds lies at the end of a chain, and every node already seen has
its arcs answered, by a node seen or by the frontier. Each layer that finds something uses
up an arc whose target was new, so the walk has run dry before its layers are spent.
-/

namespace FlowTyping

universe u v

variable {α : Type u} {ε : Type v} {arcs : List (Arc α ε)} {start node : α}

def Linked (arcs : List (Arc α ε)) (a b : α) : Prop :=
  ∃ arc ∈ arcs, arc.source = a ∧ arc.target = b

/-- A chain of arcs leads to a node exactly when finitely many links do. -/
theorem exists_path_iff :
    (∃ chain, Path arcs start node chain) ↔ Relation.ReflTransGen (Linked arcs) start node := by
  constructor
  · rintro ⟨chain, path⟩
    induction path with
    | here => exact .refl
    | step before member leaves ih => exact ih.tail ⟨_, member, leaves, rfl⟩
  · intro links
    induction links with
    | refl => exact ⟨[], .here⟩
    | tail before link ih =>
      obtain ⟨chain, path⟩ := ih
      obtain ⟨arc, member, leaves, rfl⟩ := link
      exact ⟨_, .step path member leaves⟩

theorem lookup_tabulated [DecidableEq α] {β : Type v} (row : α → β) (keys : List α) (key : α) :
    (keys.map (fun k => (k, row k))).lookup key = if key ∈ keys then some (row key) else none := by
  induction keys with
  | nil => rfl
  | cons first rest ih =>
    by_cases same : key = first
    · subst same
      simp
    · have apart : (key == first) = false := by simpa using same
      simp [List.lookup_cons, apart, same, ih]

namespace Reachability

variable [DecidableEq α] {seen : List α} {frontier : List (Found α ε)} {found : Found α ε}
  {count : Nat}

theorem mem_extensions {next : Found α ε} :
    next ∈ extensions arcs found ↔ ∃ arc ∈ arcs, arc.source = found.node ∧
      next = ⟨arc.target, found.chain ++ [arc.label]⟩ := by
  simp only [extensions, List.mem_map, List.mem_filter, decide_eq_true_eq, and_assoc]
  constructor
  · rintro ⟨arc, member, leaves, rfl⟩
    exact ⟨arc, member, leaves, rfl⟩
  · rintro ⟨arc, member, leaves, rfl⟩
    exact ⟨arc, member, leaves, rfl⟩

theorem mem_of_mem_unseen {l : List (Found α ε)} (member : found ∈ unseen seen l) :
    found ∈ l ∧ found.node ∉ seen := by
  induction l generalizing seen with
  | nil => simp [unseen] at member
  | cons first rest ih =>
    by_cases known : first.node ∈ seen
    · obtain ⟨there, fresh⟩ := ih (by simpa [unseen, known] using member)
      exact ⟨List.mem_cons_of_mem first there, fresh⟩
    · rcases List.mem_cons.mp (by simpa [unseen, known] using member) with rfl | later
      · exact ⟨by simp, known⟩
      · obtain ⟨there, fresh⟩ := ih later
        exact ⟨List.mem_cons_of_mem first there, fun old => fresh (List.mem_cons_of_mem _ old)⟩

theorem exists_mem_unseen {l : List (Found α ε)} (member : found ∈ l)
    (fresh : found.node ∉ seen) : ∃ first ∈ unseen seen l, first.node = found.node := by
  induction l generalizing seen with
  | nil => simp at member
  | cons first rest ih =>
    by_cases known : first.node ∈ seen
    · have later : found ∈ rest := by
        rcases List.mem_cons.mp member with rfl | later
        · exact absurd known fresh
        · exact later
      simpa [unseen, known] using ih later fresh
    · by_cases same : first.node = found.node
      · exact ⟨first, by simp [unseen, known], same⟩
      · have later : found ∈ rest := by
          rcases List.mem_cons.mp member with rfl | later
          · exact absurd rfl same
          · exact later
        have apart : found.node ∉ first.node :: seen := by simp [fresh, Ne.symm same]
        obtain ⟨other, there, equal⟩ := ih later apart
        exact ⟨other, by simp [unseen, known, there], equal⟩

def nextLayer (arcs : List (Arc α ε)) (seen : List α) (frontier : List (Found α ε)) :
    List (Found α ε) :=
  unseen seen (frontier.flatMap (extensions arcs))

theorem layers_succ (count : Nat) (seen : List α) (frontier : List (Found α ε)) :
    layers arcs (count + 1) seen frontier =
      if (nextLayer arcs seen frontier).isEmpty then []
      else nextLayer arcs seen frontier ++
        layers arcs count (seen ++ (nextLayer arcs seen frontier).map Found.node)
          (nextLayer arcs seen frontier) := rfl

/-- A finding of the next layer lies one arc behind the frontier, at a new node. -/
theorem mem_nextLayer (member : found ∈ nextLayer arcs seen frontier) :
    found.node ∉ seen ∧ ∃ before ∈ frontier, ∃ arc ∈ arcs, arc.source = before.node ∧
      found = ⟨arc.target, before.chain ++ [arc.label]⟩ := by
  obtain ⟨extended, fresh⟩ := mem_of_mem_unseen member
  obtain ⟨before, there, extension⟩ := List.mem_flatMap.mp extended
  exact ⟨fresh, before, there, mem_extensions.mp extension⟩

/-- Whatever the layers list is new and at the end of the chain it is listed with. -/
theorem path_of_mem_layers (sound : ∀ before ∈ frontier, Path arcs start before.node before.chain)
    (member : found ∈ layers arcs count seen frontier) :
    found.node ∉ seen ∧ Path arcs start found.node found.chain := by
  induction count generalizing seen frontier with
  | zero => simp [layers] at member
  | succ count ih =>
    have soundNext : ∀ next ∈ nextLayer arcs seen frontier,
        Path arcs start next.node next.chain := by
      intro next there
      obtain ⟨_, before, earlier, arc, among, leaves, rfl⟩ := mem_nextLayer there
      exact .step (sound before earlier) among leaves
    rw [layers_succ] at member
    split at member
    · simp at member
    · rcases List.mem_append.mp member with here | later
      · exact ⟨(mem_nextLayer here).1, soundNext found here⟩
      · obtain ⟨fresh, path⟩ := ih soundNext later
        exact ⟨fun old => fresh (List.mem_append_left _ old), path⟩

/-- Every node seen is in the frontier, or has all its arcs lead to nodes seen. -/
def Answered (arcs : List (Arc α ε)) (seen : List α) (frontier : List (Found α ε)) : Prop :=
  ∀ arc ∈ arcs, arc.source ∈ seen → arc.target ∈ seen ∨ ∃ f ∈ frontier, f.node = arc.source

theorem Answered.next (answered : Answered arcs seen frontier) :
    Answered arcs (seen ++ (nextLayer arcs seen frontier).map Found.node)
      (nextLayer arcs seen frontier) := by
  intro arc member reached
  rcases List.mem_append.mp reached with old | new
  · by_cases known : arc.target ∈ seen
    · exact Or.inl (List.mem_append_left _ known)
    · rcases answered arc member old with target | ⟨before, there, same⟩
      · exact absurd target known
      · have extended : (⟨arc.target, before.chain ++ [arc.label]⟩ : Found α ε) ∈
            frontier.flatMap (extensions arcs) :=
          List.mem_flatMap.mpr ⟨before, there, mem_extensions.mpr ⟨arc, member, same.symm, rfl⟩⟩
        obtain ⟨first, among, equal⟩ := exists_mem_unseen extended known
        exact Or.inl (List.mem_append_right _ (List.mem_map.mpr ⟨first, among, equal⟩))
  · obtain ⟨f, there, same⟩ := List.mem_map.mp new
    exact Or.inr ⟨f, there, same⟩

/-- The number of arcs to nodes not seen yet, which bounds the layers still to come. -/
def openArcs (arcs : List (Arc α ε)) (seen : List α) : Nat :=
  arcs.countP (fun arc => decide (arc.target ∉ seen))

/-- A layer that finds something uses up an open arc. -/
theorem openArcs_next (nonempty : nextLayer arcs seen frontier ≠ []) :
    openArcs arcs (seen ++ (nextLayer arcs seen frontier).map Found.node) <
      openArcs arcs seen := by
  obtain ⟨found, member⟩ := List.exists_mem_of_ne_nil _ nonempty
  obtain ⟨fresh, before, there, arc, among, leaves, same⟩ := mem_nextLayer member
  have target : arc.target = found.node := by rw [same]
  have listed : arc.target ∈ (nextLayer arcs seen frontier).map Found.node :=
    List.mem_map.mpr ⟨found, member, target.symm⟩
  unfold openArcs
  rw [List.countP_eq_length_filter, List.countP_eq_length_filter]
  have narrower : (arcs.filter fun arc => decide (arc.target ∉ seen ++
      (nextLayer arcs seen frontier).map Found.node)) =
      (arcs.filter fun arc => decide (arc.target ∉ seen)).filter fun arc =>
        decide (arc.target ∉ (nextLayer arcs seen frontier).map Found.node) := by
    rw [List.filter_filter]
    apply List.filter_congr
    intro other _
    simp only [List.mem_append, not_or, Bool.decide_and, Bool.and_comm]
  rw [narrower]
  apply List.length_filter_lt_length_iff_exists.mpr
  refine ⟨arc, List.mem_filter.mpr ⟨among, ?_⟩, ?_⟩
  · simpa [target] using fresh
  · simpa using listed

/-- The nodes seen together with all findings of enough layers are closed under arcs. -/
theorem closed_layers (answered : Answered arcs seen frontier)
    (enough : openArcs arcs seen ≤ count) {arc : Arc α ε} (member : arc ∈ arcs)
    (reached : arc.source ∈ seen ++ (layers arcs count seen frontier).map Found.node) :
    arc.target ∈ seen ++ (layers arcs count seen frontier).map Found.node := by
  induction count generalizing seen frontier with
  | zero =>
    have spent : openArcs arcs seen = 0 := Nat.le_zero.mp enough
    have known : arc.target ∈ seen := by
      have closed := List.countP_eq_zero.mp spent arc member
      simpa using closed
    exact List.mem_append_left _ known
  | succ count ih =>
    rw [layers_succ] at reached ⊢
    by_cases empty : nextLayer arcs seen frontier = []
    · simp only [empty, List.isEmpty_nil, ↓reduceIte, List.map_nil, List.append_nil] at reached ⊢
      have next := answered.next arc member (List.mem_append_left _ reached)
      simpa [empty] using next
    · have nonempty : (nextLayer arcs seen frontier).isEmpty = false := by
        simpa using empty
      simp only [nonempty, Bool.false_eq_true, ↓reduceIte, List.map_append,
        ← List.append_assoc] at reached ⊢
      have fewer := openArcs_next empty
      exact ih answered.next (by omega) reached

/-- The walk lists exactly the other nodes that a chain of arcs leads to. -/
theorem mem_reach_iff :
    node ∈ (reach arcs start).map Found.node ↔
      node ≠ start ∧ Relation.ReflTransGen (Linked arcs) start node := by
  have initial : ∀ before ∈ [(⟨start, []⟩ : Found α ε)],
      Path arcs start before.node before.chain := by
    intro before member
    rw [List.mem_singleton.mp member]
    exact .here
  constructor
  · intro member
    obtain ⟨found, there, rfl⟩ := List.mem_map.mp member
    obtain ⟨fresh, path⟩ := path_of_mem_layers initial there
    exact ⟨by simpa using fresh, exists_path_iff.mp ⟨_, path⟩⟩
  · rintro ⟨other, links⟩
    have answered : Answered arcs [start] [(⟨start, []⟩ : Found α ε)] := by
      intro arc _ reached
      exact Or.inr ⟨⟨start, []⟩, by simp, (List.mem_singleton.mp reached).symm⟩
    have found : node ∈ [start] ++ (reach arcs start).map Found.node := by
      clear other
      induction links with
      | refl => simp
      | tail before link ih =>
        obtain ⟨arc, member, rfl, rfl⟩ := link
        exact closed_layers answered List.countP_le_length member ih
    simpa [other] using found

end Reachability

end FlowTyping
