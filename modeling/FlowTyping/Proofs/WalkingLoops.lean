import FlowTyping.Proofs.ShortestChains
import Mathlib.Data.List.Dedup

/-!
The walks as loops. A turn of a loop takes a node that waits, and what it finds behind the node
for the first time has to wait in its place. Finding a node uses up the arcs that lead to it, so
every turn leaves less to do, whichever node is taken and in whatever order its targets are
looked at; and when nothing waits any more, everything that chains of arcs lead to has been
found. If the nodes wait in a queue, they are found layer by layer.
-/

namespace FlowTyping

universe u v

variable {α : Type u} {ε : Type v} {arcs : List (Arc α ε)} {start node : α}

/-- Where a loop stands: the nodes that wait, and all that have been found. -/
structure Exploration (α : Type u) where
  waiting : List α
  found : List α

namespace Exploration

/-- Only the start waits. -/
def outset (start : α) : Exploration α := ⟨[start], []⟩

/-- A turn: some waiting node is taken, and what is new behind it, in any order, is found and
waits. -/
inductive Turn (arcs : List (Arc α ε)) (start : α) : Exploration α → Exploration α → Prop where
  | take {before after found fresh : List α} {node : α} (distinct : fresh.Nodup)
      (new : ∀ m, m ∈ fresh ↔ Linked arcs node m ∧ m ≠ start ∧ m ∉ found) :
      Turn arcs start ⟨before ++ node :: after, found⟩ ⟨before ++ after ++ fresh, found ++ fresh⟩

abbrev Turns (arcs : List (Arc α ε)) (start : α) : Exploration α → Exploration α → Prop :=
  Relation.ReflTransGen (Turn arcs start)

variable {e f : Exploration α}

section Ending

variable [DecidableEq α]

/-- A new target uses up an arc. -/
theorem openArcs_cons_lt {seen : List α} {m : α} (linked : Linked arcs node m) (new : m ∉ seen) :
    Reachability.openArcs arcs (m :: seen) < Reachability.openArcs arcs seen := by
  obtain ⟨arc, member, _, rfl⟩ := linked
  have narrower : arcs.filter (fun other => decide (other.target ∉ arc.target :: seen)) =
      (arcs.filter (fun other => decide (other.target ∉ seen))).filter
        (fun other => decide (other.target ≠ arc.target)) := by
    rw [List.filter_filter]
    apply List.filter_congr
    intro other _
    simp only [List.mem_cons, not_or, ne_eq, Bool.decide_and]
  unfold Reachability.openArcs
  rw [List.countP_eq_length_filter, List.countP_eq_length_filter, narrower]
  apply List.length_filter_lt_length_iff_exists.mpr
  exact ⟨arc, List.mem_filter.mpr ⟨member, by simpa using new⟩, by simp⟩

theorem openArcs_append_le {seen fresh : List α} (distinct : fresh.Nodup)
    (new : ∀ m ∈ fresh, Linked arcs node m ∧ m ∉ seen) :
    Reachability.openArcs arcs (fresh ++ seen) + fresh.length ≤
      Reachability.openArcs arcs seen := by
  induction fresh with
  | nil => simp
  | cons first rest ih =>
    obtain ⟨apart, distinct⟩ := List.nodup_cons.mp distinct
    obtain ⟨linked, unseen⟩ := new first List.mem_cons_self
    have later := ih distinct fun m member => new m (List.mem_cons_of_mem first member)
    have fresh : first ∉ rest ++ seen := fun there => (List.mem_append.mp there).elim apart unseen
    have used := openArcs_cons_lt linked fresh
    rw [List.cons_append, List.length_cons]
    omega

/-- What is left to do: the arcs whose targets are new, and the nodes that wait. -/
def effort (arcs : List (Arc α ε)) (start : α) (e : Exploration α) : Nat :=
  Reachability.openArcs arcs (start :: e.found) + e.waiting.length

theorem Turn.effort_lt (turn : Turn arcs start e f) :
    f.effort arcs start < e.effort arcs start := by
  cases turn with
  | @take before after found fresh node distinct new =>
    have behind : ∀ m ∈ fresh, Linked arcs node m ∧ m ∉ start :: found := by
      intro m member
      obtain ⟨linked, other, unseen⟩ := (new m).mp member
      exact ⟨linked, by simp [other, unseen]⟩
    have used := openArcs_append_le distinct behind
    have same : Reachability.openArcs arcs (start :: (found ++ fresh)) =
        Reachability.openArcs arcs (fresh ++ (start :: found)) := by
      unfold Reachability.openArcs
      apply List.countP_congr
      intro arc _
      simp only [List.mem_cons, List.mem_append, decide_eq_true_eq, or_assoc, or_comm]
    simp only [effort, same, List.length_append, List.length_cons]
    omega

/-- No loop goes on for ever, whichever nodes it takes. -/
theorem wellFounded_turn (arcs : List (Arc α ε)) (start : α) :
    WellFounded (fun f e => Turn arcs start e f) :=
  Subrelation.wf Turn.effort_lt (InvImage.wf (effort arcs start) Nat.lt_wfRel.wf)

theorem exists_turn (waits : e.waiting ≠ []) : ∃ f, Turn arcs start e f := by
  obtain ⟨waiting, found⟩ := e
  cases waiting with
  | nil => exact absurd rfl waits
  | cons node after =>
    let targets := (arcs.filter (fun arc => decide (arc.source = node))).map Arc.target
    let fresh := (targets.filter (fun m => decide (m ≠ start ∧ m ∉ found))).dedup
    have new : ∀ m, m ∈ fresh ↔ Linked arcs node m ∧ m ≠ start ∧ m ∉ found := by
      intro m
      simp [fresh, targets, Linked, and_assoc]
    have turn : Turn arcs start ⟨[] ++ node :: after, found⟩
      ⟨[] ++ after ++ fresh, found ++ fresh⟩ := .take (List.nodup_dedup _) new
    exact ⟨_, turn⟩

/-- Every loop can be brought to its end. -/
theorem exists_end (arcs : List (Arc α ε)) (start : α) (e : Exploration α) :
    ∃ f, Turns arcs start e f ∧ f.waiting = [] := by
  induction e using (wellFounded_turn arcs start).induction with
  | _ e ih =>
    by_cases done : e.waiting = []
    · exact ⟨e, .refl, done⟩
    · have onward : ∃ next, Turn arcs start e next := exists_turn done
      obtain ⟨next, turn⟩ := onward
      obtain ⟨last, later, finished⟩ := ih next turn
      exact ⟨last, .head turn later, finished⟩

end Ending

/-- What every turn keeps: only what chains of arcs lead to is found, each node once, and an arc
from a node that was found leads to one that was, unless the node still waits. -/
structure Sound (arcs : List (Arc α ε)) (start : α) (e : Exploration α) : Prop where
  distinct : e.found.Nodup
  reached : ∀ m ∈ e.found, m ≠ start ∧ Relation.ReflTransGen (Linked arcs) start m
  waiting : ∀ m ∈ e.waiting, m = start ∨ m ∈ e.found
  answered : ∀ m n, m = start ∨ m ∈ e.found → Linked arcs m n →
    n = start ∨ n ∈ e.found ∨ m ∈ e.waiting

namespace Sound

theorem outset (arcs : List (Arc α ε)) (start : α) : Sound arcs start (.outset start) where
  distinct := .nil
  reached _ none := absurd none List.not_mem_nil
  waiting _ member := Or.inl (List.mem_singleton.mp member)
  answered m n known _ := by
    rcases known with same | none
    · exact Or.inr (Or.inr (List.mem_singleton.mpr same))
    · exact absurd none List.not_mem_nil

theorem turn (sound : Sound arcs start e) (turn : Turn arcs start e f) : Sound arcs start f := by
  cases turn with
  | @take before after found fresh node distinct new =>
    have taken : Relation.ReflTransGen (Linked arcs) start node := by
      rcases sound.waiting node (by simp) with same | there
      · exact same ▸ .refl
      · exact (sound.reached node there).2
    constructor
    · apply sound.distinct.append distinct
      intro m old fresh
      exact ((new m).mp fresh).2.2 old
    · intro m member
      rcases List.mem_append.mp member with old | fresh
      · exact sound.reached m old
      · obtain ⟨linked, other, _⟩ := (new m).mp fresh
        exact ⟨other, taken.tail linked⟩
    · intro m member
      rcases List.mem_append.mp member with old | fresh
      · have earlier : m ∈ before ++ node :: after := by
          rcases List.mem_append.mp old with first | second
          · exact List.mem_append_left _ first
          · exact List.mem_append_right _ (List.mem_cons_of_mem node second)
        exact (sound.waiting m earlier).imp_right (List.mem_append_left _)
      · exact Or.inr (List.mem_append_right _ fresh)
    · intro m n known linked
      have earlier : (m = start ∨ m ∈ found) ∨ m ∈ fresh := by
        rcases known with same | there
        · exact Or.inl (Or.inl same)
        · exact (List.mem_append.mp there).imp_left Or.inr
      rcases earlier with old | waits
      · by_cases seen : n = start ∨ n ∈ found
        · exact seen.imp_right fun there => Or.inl (List.mem_append_left _ there)
        · obtain ⟨other, unseen⟩ := not_or.mp seen
          rcases sound.answered m n old linked with same | there | waits
          · exact absurd same other
          · exact absurd there unseen
          · rcases List.mem_append.mp waits with first | second
            · exact Or.inr (Or.inr (by simp [first]))
            · rcases List.mem_cons.mp second with same | third
              · -- The source is the node of this turn, so the target is among its findings.
                have fresh := (new n).mpr ⟨same ▸ linked, other, unseen⟩
                exact Or.inr (Or.inl (List.mem_append_right _ fresh))
              · exact Or.inr (Or.inr (by simp [third]))
      · exact Or.inr (Or.inr (List.mem_append_right _ waits))

theorem turns (sound : Sound arcs start e) (turns : Turns arcs start e f) : Sound arcs start f := by
  induction turns with
  | refl => exact sound
  | tail _ turn ih => exact ih.turn turn

/-- When nothing waits any more, all that chains of arcs lead to has been found. -/
theorem mem_found_iff (sound : Sound arcs start e) (finished : e.waiting = []) :
    node ∈ e.found ↔ node ≠ start ∧ Relation.ReflTransGen (Linked arcs) start node := by
  constructor
  · exact sound.reached node
  · intro reached
    obtain ⟨other, links⟩ := reached
    have known : node = start ∨ node ∈ e.found := by
      clear other
      induction links with
      | refl => exact Or.inl rfl
      | tail _ link ih =>
        rcases sound.answered _ _ ih link with same | there | waits
        · exact Or.inl same
        · exact Or.inr there
        · rw [finished] at waits
          exact absurd waits List.not_mem_nil
    exact known.resolve_left other

end Sound

end Exploration

/-- Where a loop with a queue stands: the findings that wait, in the order in which they will be
taken, and all findings so far, each with its chain. -/
structure QueueWalk (α : Type u) (ε : Type v) where
  waiting : List (Found α ε)
  found : List (Found α ε)

namespace QueueWalk

/-- The start waits, at the end of the empty chain. -/
def outset (start : α) : QueueWalk α ε := ⟨[⟨start, []⟩], []⟩

/-- What is left of a walk when chains are forgotten. -/
def nodes (w : QueueWalk α ε) : Exploration α :=
  ⟨w.waiting.map Found.node, w.found.map Found.node⟩

variable [DecidableEq α] {w next : QueueWalk α ε}

/-- Takes the first finding that waits, and puts what is new behind it at the end of the queue;
none if nothing waits. -/
def next? (arcs : List (Arc α ε)) (start : α) (w : QueueWalk α ε) : Option (QueueWalk α ε) :=
  match w.waiting with
  | [] => none
  | first :: rest =>
    let new := Reachability.unseen (start :: w.found.map Found.node)
      (Reachability.extensions arcs first)
    some ⟨rest ++ new, w.found ++ new⟩

abbrev Goes (arcs : List (Arc α ε)) (start : α) : QueueWalk α ε → QueueWalk α ε → Prop :=
  Relation.ReflTransGen fun w next => w.next? arcs start = some next

/-- A loop with a queue is a loop that takes the node that has waited longest. -/
theorem turn_of_next? (goes : w.next? arcs start = some next) :
    Exploration.Turn arcs start w.nodes next.nodes := by
  obtain ⟨waiting, found⟩ := w
  cases waiting with
  | nil => cases goes
  | cons first rest =>
    cases goes
    simp only [nodes, List.map_append, List.map_cons]
    show Exploration.Turn arcs start ⟨[] ++ _, _⟩ ⟨[] ++ _ ++ _, _⟩
    refine .take ?_ ?_
    · exact List.pairwise_map.mpr (Reachability.unseen_pairwise _ _)
    · intro m
      constructor
      · intro member
        obtain ⟨f, listed, rfl⟩ := List.mem_map.mp member
        obtain ⟨extended, fresh⟩ := Reachability.mem_of_mem_unseen listed
        obtain ⟨arc, among, leaves, rfl⟩ := Reachability.mem_extensions.mp extended
        obtain ⟨other, unseen⟩ := not_or.mp (List.mem_cons.not.mp fresh)
        exact ⟨⟨arc, among, leaves, rfl⟩, other, unseen⟩
      · intro new
        obtain ⟨⟨arc, among, leaves, rfl⟩, other, unseen⟩ := new
        have extended := Reachability.mem_extensions.mpr ⟨arc, among, leaves, rfl⟩
        have fresh : arc.target ∉ start :: found.map Found.node := by simp [other, unseen]
        obtain ⟨f, listed, same⟩ := Reachability.exists_mem_unseen extended fresh
        exact List.mem_map.mpr ⟨f, listed, same⟩

theorem wellFounded_next? (arcs : List (Arc α ε)) (start : α) :
    WellFounded (fun next w : QueueWalk α ε => w.next? arcs start = some next) :=
  Subrelation.wf turn_of_next? (InvImage.wf nodes (Exploration.wellFounded_turn arcs start))

end QueueWalk

namespace Reachability

variable [DecidableEq α] {seen other : List α}

theorem unseen_congr (same : ∀ m, m ∈ seen ↔ m ∈ other) (l : List (Found α ε)) :
    unseen seen l = unseen other l := by
  induction l generalizing seen other with
  | nil => rfl
  | cons first rest ih =>
    have extended : ∀ m, m ∈ first.node :: seen ↔ m ∈ first.node :: other := by
      intro m
      rw [List.mem_cons, List.mem_cons, same]
    rw [unseen, unseen, ih same, ih extended]
    simp only [same]

theorem unseen_append (seen : List α) (l m : List (Found α ε)) :
    unseen seen (l ++ m) = unseen seen l ++ unseen (seen ++ (unseen seen l).map Found.node) m := by
  induction l generalizing seen with
  | nil => simp [unseen]
  | cons first rest ih =>
    rw [List.cons_append, unseen, unseen]
    split
    · exact ih seen
    · rw [ih, List.cons_append, List.map_cons]
      congr 2
      apply unseen_congr
      intro m
      simp [or_left_comm]

end Reachability

namespace QueueWalk

variable [DecidableEq α]

/-- A queue passes through a layer: when the findings of the frontier have been taken, those of
the next layer have joined the end of the queue. -/
theorem goes_through (arcs : List (Arc α ε)) (start : α) (frontier later found : List (Found α ε)) :
    Goes arcs start ⟨frontier ++ later, found⟩
      ⟨later ++ Reachability.nextLayer arcs (start :: found.map Found.node) frontier,
        found ++ Reachability.nextLayer arcs (start :: found.map Found.node) frontier⟩ := by
  induction frontier generalizing later found with
  | nil => simpa [Reachability.nextLayer, Reachability.unseen] using Relation.ReflTransGen.refl
  | cons first rest ih =>
    obtain ⟨new, added⟩ : ∃ new, new = Reachability.unseen (start :: found.map Found.node)
      (Reachability.extensions arcs first) := ⟨_, rfl⟩
    have step : next? arcs start ⟨first :: rest ++ later, found⟩ =
        some ⟨rest ++ (later ++ new), found ++ new⟩ := by
      rw [added, ← List.append_assoc]
      rfl
    have layer : Reachability.nextLayer arcs (start :: found.map Found.node) (first :: rest) =
        new ++ Reachability.nextLayer arcs (start :: (found ++ new).map Found.node) rest := by
      rw [Reachability.nextLayer, List.flatMap_cons, Reachability.unseen_append, ← added,
        List.map_append]
      rfl
    have behind := ih (later ++ new) (found ++ new)
    rw [List.append_assoc, List.append_assoc, ← layer] at behind
    exact .head step behind

/-- Taking one layer after the other, a queue runs empty with the findings of all layers. -/
theorem goes_layers {count : Nat} {found : List (Found α ε)}
    (enough : Reachability.openArcs arcs (start :: found.map Found.node) ≤ count)
    (frontier : List (Found α ε)) :
    Goes arcs start ⟨frontier, found⟩
      ⟨[], found ++ Reachability.layers arcs count (start :: found.map Found.node) frontier⟩ := by
  have through := goes_through arcs start frontier [] found
  rw [List.append_nil, List.nil_append] at through
  induction count generalizing found frontier with
  | zero =>
    have empty : Reachability.nextLayer arcs (start :: found.map Found.node) frontier = [] := by
      by_contra nonempty
      have fewer := Reachability.openArcs_next nonempty
      omega
    rw [empty] at through
    exact through
  | succ count ih =>
    rw [Reachability.layers_succ]
    by_cases empty : Reachability.nextLayer arcs (start :: found.map Found.node) frontier = []
    · rw [empty] at through ⊢
      exact through
    · have fewer := Reachability.openArcs_next empty
      rw [if_neg (by simpa using empty)]
      obtain ⟨new, layer⟩ : ∃ new, new =
        Reachability.nextLayer arcs (start :: found.map Found.node) frontier := ⟨_, rfl⟩
      rw [← layer] at through fewer ⊢
      have seen : start :: found.map Found.node ++ new.map Found.node =
          start :: (found ++ new).map Found.node := by
        rw [List.map_append, List.cons_append]
      rw [seen] at fewer ⊢
      have later := goes_through arcs start new [] (found ++ new)
      rw [List.append_nil, List.nil_append] at later
      have rest := ih (by omega) new later
      rw [List.append_assoc] at rest
      exact through.trans rest

/-- From the start alone, a queue runs empty with what the walk by layers finds. -/
theorem goes_reach (arcs : List (Arc α ε)) (start : α) :
    Goes arcs start (outset start) ⟨[], Reachability.reach arcs start⟩ := by
  have enough : Reachability.openArcs arcs (start :: ([] : List (Found α ε)).map Found.node) ≤
      arcs.length := List.countP_le_length
  exact goes_layers enough [⟨start, []⟩]

end QueueWalk

end FlowTyping
