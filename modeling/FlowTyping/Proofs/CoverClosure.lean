import FlowTyping.Domain.Hasse
import FlowTyping.Proofs.Reachability

/-!
The loop that closes the covers of a diagram. It writes into the table that it reads, and goes
through the names once. The row of the name in turn stays as it is, so it does not matter which
rows have been widened when it is read; and a name that has had its turn is passed through for
good, whatever later turns add.
-/

namespace FlowTyping.Hasse

variable {names : List String} {covers : List (String × String)}
variable {above rest : List (String × List String)} {a b k key name : String}
variable {more : List String}

/-- Some cover leads from the lower name to the upper one. -/
def Covered (covers : List (String × String)) (a b : String) : Prop := (a, b) ∈ covers

def rowNames (above : List (String × List String)) : List String := above.map Prod.fst

theorem below_cons {members : List String} : below ((key, members) :: rest) a b =
    if a = key then members.contains b else below rest a b := by
  by_cases same : a = key
  · simp [below, upSet, same]
  · simp [below, upSet, List.lookup_cons, same, beq_false_of_ne same]

theorem mem_rowNames_of_below (there : below above a b = true) : a ∈ rowNames above := by
  induction above with
  | nil => simp [below, upSet] at there
  | cons row rest ih =>
    obtain ⟨key, members⟩ := row
    rw [below_cons] at there
    split at there
    · rename_i same
      simp [rowNames, same]
    · exact List.mem_cons_of_mem _ (ih there)

theorem rowNames_widen : rowNames (widen above name more) = rowNames above := by
  simp only [rowNames, widen, List.map_map]
  apply List.map_congr_left
  intro row _
  simp only [Function.comp]
  split <;> rfl

theorem below_widen : below (widen above name more) a b = true ↔
    below above a b = true ∨ (a = name ∧ name ∈ rowNames above ∧ b ∈ more) := by
  induction above with
  | nil => simp [below, upSet, widen, rowNames]
  | cons row rest ih =>
    obtain ⟨key, members⟩ := row
    have step : widen ((key, members) :: rest) name more =
        (key, if key = name then members ++ more.filter (fun n => !members.contains n)
          else members) :: widen rest name more := by
      simp only [widen, List.map_cons]
      split <;> rfl
    rw [step, below_cons, below_cons]
    by_cases here : a = key
    · subst here
      by_cases same : a = name
      · subst same
        by_cases old : b ∈ members <;> simp [rowNames, old]
      · simp [same]
    · rw [if_neg here, if_neg here, ih]
      by_cases same : a = name
      · subst same
        simp [rowNames, here]
      · simp [same]

/-- What one turn of the inner loop does. -/
theorem below_closeRow {i : String} :
    below (closeRow k above i) a b = true ↔ below above a b = true ∨
      (a = i ∧ below above a k = true ∧ below above k b = true) := by
  unfold closeRow
  split
  · rename_i under
    rw [below_widen]
    refine or_congr_right (and_congr_right fun same => ?_)
    subst same
    have listed : b ∈ upSet above k ↔ below above k b = true := List.contains_iff_mem.symm
    simp [mem_rowNames_of_below under, under, listed]
  · rename_i apart
    refine (or_iff_left ?_).symm
    intro closed
    obtain ⟨same, under, _⟩ := closed
    exact apart (same ▸ under)

theorem rowNames_closeRow {i : String} :
    rowNames (closeRow k above i) = rowNames above := by
  unfold closeRow
  split
  · exact rowNames_widen
  · rfl

/-- A turn of the inner loop leaves the row of `k` as it is. -/
theorem below_closeRow_left {i : String} :
    below (closeRow k above i) k b = true ↔ below above k b = true := by
  rw [below_closeRow]
  exact or_iff_left_of_imp fun closed => closed.2.2

/-- It puts `k` above no other name. -/
theorem below_closeRow_right {i : String} :
    below (closeRow k above i) a k = true ↔ below above a k = true := by
  rw [below_closeRow]
  exact or_iff_left_of_imp fun closed => closed.2.1

/-- What the inner loop has done after some of the names. -/
theorem below_closeRows (turns : List String) (above : List (String × List String)) :
    below (turns.foldl (closeRow k) above) a b = true ↔ below above a b = true ∨
      (a ∈ turns ∧ below above a k = true ∧ below above k b = true) := by
  induction turns generalizing above with
  | nil => simp
  | cons i rest ih =>
    rw [List.foldl_cons, ih, below_closeRow, below_closeRow_left, below_closeRow_right,
      List.mem_cons, or_assoc, ← or_and_right]

theorem rowNames_closeThrough (turns : List String) (above : List (String × List String)) :
    rowNames (closeThrough turns above k) = rowNames above := by
  unfold closeThrough
  induction turns generalizing above with
  | nil => rfl
  | cons i rest ih => rw [List.foldl_cons, ih, rowNames_closeRow]

/-- A turn of the outer loop adds the ways through one name. -/
theorem below_closeThrough (rows : rowNames above = names) :
    below (closeThrough names above k) a b = true ↔
      below above a b = true ∨ (below above a k = true ∧ below above k b = true) := by
  rw [closeThrough, below_closeRows]
  refine or_congr_right (and_iff_right_of_imp fun ways => ?_)
  exact rows ▸ mem_rowNames_of_below ways.1

theorem rowNames_coverRows : rowNames (coverRows names covers) = names := by
  have start : rowNames (names.map (fun name => (name, [name]))) = names := by
    simp [rowNames, Function.comp_def]
  have kept : ∀ above, rowNames (covers.foldl (fun above c => widen above c.1 [c.2]) above) =
      rowNames above := by
    induction covers with
    | nil => exact fun _ => rfl
    | cons c rest ih =>
      intro above
      rw [List.foldl_cons, ih, rowNames_widen]
  exact (kept _).trans start

theorem below_coverRows (known : a ∈ names) :
    below (coverRows names covers) a b = true ↔ a = b ∨ Covered covers a b := by
  have start : below (names.map (fun name => (name, [name]))) a b = true ↔ a = b := by
    rw [below, upSet, lookup_tabulated, if_pos known]
    simp [eq_comm]
  have added : ∀ above, a ∈ rowNames above →
      (below (covers.foldl (fun above c => widen above c.1 [c.2]) above) a b = true ↔
        below above a b = true ∨ Covered covers a b) := by
    induction covers with
    | nil => simp [Covered]
    | cons c rest ih =>
      obtain ⟨lower, upper⟩ := c
      intro above row
      rw [List.foldl_cons, ih _ (by rwa [rowNames_widen]), below_widen, or_assoc]
      refine or_congr_right ?_
      by_cases same : a = lower
      · subst same
        simp [Covered, row]
      · simp [Covered, same]
  rw [coverRows, added, start]
  simpa [rowNames, Function.comp_def] using known

/-- What holds of the table once some names have had their turn. -/
structure Closed (names : List String) (covers : List (String × String)) (turns : List String)
    (above : List (String × List String)) : Prop where
  rows : rowNames above = names
  sound : ∀ a b, below above a b = true → Relation.ReflTransGen (Covered covers) a b
  start : ∀ a ∈ names, ∀ b, a = b ∨ Covered covers a b → below above a b = true
  through : ∀ k ∈ turns, ∀ a b, below above a k = true → below above k b = true →
    below above a b = true

namespace Closed

variable {turns : List String}

theorem outset : Closed names covers [] (coverRows names covers) where
  rows := rowNames_coverRows
  sound a b there := by
    have known := mem_rowNames_of_below there
    rw [rowNames_coverRows] at known
    rcases (below_coverRows known).mp there with same | cover
    · exact same ▸ .refl
    · exact .single cover
  start a known b := (below_coverRows known).mpr
  through k none := absurd none List.not_mem_nil

/-- The next turn leaves the ways through the names before it, those with new ends included. -/
theorem turn (closed : Closed names covers turns above) (k : String) :
    Closed names covers (k :: turns) (closeThrough names above k) where
  rows := (rowNames_closeThrough names above).trans closed.rows
  sound a b there := by
    rcases (below_closeThrough closed.rows).mp there with old | ⟨first, second⟩
    · exact closed.sound a b old
    · exact (closed.sound a k first).trans (closed.sound k b second)
  start a known b near :=
    (below_closeThrough closed.rows).mpr (Or.inl (closed.start a known b near))
  through j member a b first second := by
    rw [below_closeThrough closed.rows] at first second ⊢
    rcases List.mem_cons.mp member with same | earlier
    · subst same
      exact Or.inr ⟨first.elim id And.left, second.elim id And.right⟩
    · have pass := closed.through j earlier
      rcases first with first | ⟨toK, fromK⟩
      · rcases second with second | ⟨onward, beyond⟩
        · exact Or.inl (pass a b first second)
        · exact Or.inr ⟨pass a k first onward, beyond⟩
      · rcases second with second | ⟨_, beyond⟩
        · exact Or.inr ⟨toK, pass k b fromK second⟩
        · exact Or.inr ⟨toK, beyond⟩

theorem after (closed : Closed names covers turns above) (later : List String) :
    Closed names covers (later.reverse ++ turns) (later.foldl (closeThrough names) above) := by
  induction later generalizing turns above with
  | nil => exact closed
  | cons k rest ih => simpa using ih (closed.turn k)

end Closed

/-- The table puts above a name what chains of covers lead to. -/
theorem below_upSets (inside : ∀ c ∈ covers, c.1 ∈ names ∧ c.2 ∈ names) (known : a ∈ names) :
    below (upSets names covers) a b = true ↔ Relation.ReflTransGen (Covered covers) a b := by
  have closed : Closed names covers (names.reverse ++ []) (upSets names covers) :=
    Closed.outset.after names
  constructor
  · exact closed.sound a b
  · intro chain
    induction chain with
    | refl => exact closed.start a known a (Or.inl rfl)
    | @tail c b _ cover ih =>
      have middle : c ∈ names := (inside (c, b) cover).1
      refine closed.through c (by simpa using middle) a b ih ?_
      exact closed.start c middle b (Or.inr cover)

end FlowTyping.Hasse
