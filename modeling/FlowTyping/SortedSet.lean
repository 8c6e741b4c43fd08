namespace FlowTyping

universe u

/-- A finite set, kept as the strictly increasing list of its members. -/
structure SortedSet (α : Type u) (cmp : α → α → Ordering) where
  toList : List α
  increasing : toList.Pairwise (fun a b => cmp a b = .lt)
  deriving DecidableEq

namespace SortedSet

variable {α : Type u} {cmp : α → α → Ordering}

/-- Puts a member where the order wants it; a member that is there already stays. -/
def insertSorted (cmp : α → α → Ordering) (a : α) : List α → List α
  | [] => [a]
  | b :: rest =>
    match cmp a b with
    | .lt => a :: b :: rest
    | .eq => b :: rest
    | .gt => b :: insertSorted cmp a rest

theorem eq_or_mem_of_mem_insertSorted {a c : α} {l : List α}
    (member : c ∈ insertSorted cmp a l) : c = a ∨ c ∈ l := by
  induction l with
  | nil => simpa [insertSorted] using member
  | cons b rest ih =>
    unfold insertSorted at member
    split at member
    · simpa using member
    · exact Or.inr member
    · rcases List.mem_cons.mp member with rfl | later
      · exact Or.inr (by simp)
      · rcases ih later with rfl | there
        · exact Or.inl rfl
        · exact Or.inr (List.mem_cons_of_mem b there)

theorem mem_insertSorted [Std.LawfulEqCmp cmp] {a c : α} {l : List α} :
    c ∈ insertSorted cmp a l ↔ c = a ∨ c ∈ l := by
  constructor
  · exact eq_or_mem_of_mem_insertSorted
  · induction l with
    | nil => simp [insertSorted]
    | cons b rest ih =>
      intro member
      unfold insertSorted
      split
      · simpa using member
      · rename_i same
        have equal : a = b := Std.LawfulEqCmp.eq_of_compare same
        subst equal
        rcases member with rfl | there
        · simp
        · exact there
      · rcases member with rfl | there
        · exact List.mem_cons_of_mem b (ih (Or.inl rfl))
        · rcases List.mem_cons.mp there with rfl | later
          · simp
          · exact List.mem_cons_of_mem b (ih (Or.inr later))

theorem increasing_insertSorted [Std.TransCmp cmp] {a : α} {l : List α}
    (sorted : l.Pairwise (fun a b => cmp a b = .lt)) :
    (insertSorted cmp a l).Pairwise (fun a b => cmp a b = .lt) := by
  induction l with
  | nil => simp [insertSorted]
  | cons b rest ih =>
    obtain ⟨before, tail⟩ := List.pairwise_cons.mp sorted
    unfold insertSorted
    split
    · rename_i less
      refine List.pairwise_cons.mpr ⟨fun c member => ?_, sorted⟩
      rcases List.mem_cons.mp member with rfl | later
      · exact less
      · exact Std.TransCmp.lt_trans less (before c later)
    · exact sorted
    · rename_i greater
      refine List.pairwise_cons.mpr ⟨fun c member => ?_, ih tail⟩
      rcases eq_or_mem_of_mem_insertSorted member with rfl | later
      · exact Std.OrientedCmp.lt_of_gt greater
      · exact before c later

def empty : SortedSet α cmp := ⟨[], List.Pairwise.nil⟩

instance : EmptyCollection (SortedSet α cmp) := ⟨empty⟩

instance : Inhabited (SortedSet α cmp) := ⟨empty⟩

instance : Membership α (SortedSet α cmp) := ⟨fun s a => a ∈ s.toList⟩

theorem mem_def {a : α} {s : SortedSet α cmp} : a ∈ s ↔ a ∈ s.toList := Iff.rfl

instance [DecidableEq α] (a : α) (s : SortedSet α cmp) : Decidable (a ∈ s) :=
  inferInstanceAs (Decidable (a ∈ s.toList))

def size (s : SortedSet α cmp) : Nat := s.toList.length

def insert [Std.TransCmp cmp] (a : α) (s : SortedSet α cmp) : SortedSet α cmp :=
  ⟨insertSorted cmp a s.toList, increasing_insertSorted s.increasing⟩

def insertAll [Std.TransCmp cmp] (l : List α) (s : SortedSet α cmp) : SortedSet α cmp :=
  l.foldl (fun s a => s.insert a) s

def ofList [Std.TransCmp cmp] (l : List α) : SortedSet α cmp := insertAll l empty

def union [Std.TransCmp cmp] (s t : SortedSet α cmp) : SortedSet α cmp := insertAll t.toList s

def filter (keep : α → Bool) (s : SortedSet α cmp) : SortedSet α cmp :=
  ⟨s.toList.filter keep, s.increasing.filter keep⟩

def inter [DecidableEq α] (s t : SortedSet α cmp) : SortedSet α cmp :=
  s.filter (fun a => decide (a ∈ t))

/-- Whether every member of `s` is one of `t`. -/
def subset [DecidableEq α] (s t : SortedSet α cmp) : Bool :=
  s.toList.all (fun a => decide (a ∈ t))

@[simp] theorem not_mem_empty (a : α) : ¬ a ∈ (empty : SortedSet α cmp) := by
  simp [mem_def, empty]

@[simp] theorem mem_insert [Std.TransCmp cmp] [Std.LawfulEqCmp cmp] {a b : α}
    {s : SortedSet α cmp} : b ∈ s.insert a ↔ b = a ∨ b ∈ s :=
  mem_insertSorted

@[simp] theorem mem_insertAll [Std.TransCmp cmp] [Std.LawfulEqCmp cmp] {b : α} {l : List α}
    {s : SortedSet α cmp} : b ∈ s.insertAll l ↔ b ∈ l ∨ b ∈ s := by
  induction l generalizing s with
  | nil => simp [insertAll]
  | cons a rest ih =>
    have step : s.insertAll (a :: rest) = (s.insert a).insertAll rest := rfl
    rw [step, ih, mem_insert, List.mem_cons]
    constructor
    · rintro (later | rfl | there)
      · exact Or.inl (Or.inr later)
      · exact Or.inl (Or.inl rfl)
      · exact Or.inr there
    · rintro ((rfl | later) | there)
      · exact Or.inr (Or.inl rfl)
      · exact Or.inl later
      · exact Or.inr (Or.inr there)

@[simp] theorem mem_ofList [Std.TransCmp cmp] [Std.LawfulEqCmp cmp] {b : α} {l : List α} :
    b ∈ (ofList l : SortedSet α cmp) ↔ b ∈ l := by
  simp [ofList]

@[simp] theorem mem_union [Std.TransCmp cmp] [Std.LawfulEqCmp cmp] {b : α}
    {s t : SortedSet α cmp} : b ∈ s.union t ↔ b ∈ s ∨ b ∈ t := by
  simp only [union, mem_insertAll, ← mem_def]
  exact Or.comm

@[simp] theorem mem_filter {b : α} {keep : α → Bool} {s : SortedSet α cmp} :
    b ∈ s.filter keep ↔ b ∈ s ∧ keep b = true := by
  simp [mem_def, filter]

@[simp] theorem mem_inter [DecidableEq α] {b : α} {s t : SortedSet α cmp} :
    b ∈ s.inter t ↔ b ∈ s ∧ b ∈ t := by
  simp [inter]

theorem subset_iff [DecidableEq α] {s t : SortedSet α cmp} :
    s.subset t = true ↔ ∀ a, a ∈ s → a ∈ t := by
  simp [subset, mem_def]

private theorem eq_of_same_members [Std.TransCmp cmp] {l m : List α}
    (sortedL : l.Pairwise (fun a b => cmp a b = .lt))
    (sortedM : m.Pairwise (fun a b => cmp a b = .lt))
    (same : ∀ a, a ∈ l ↔ a ∈ m) : l = m := by
  have irreflexive : ∀ a, cmp a a ≠ .lt := fun a less =>
    Std.OrientedCmp.not_lt_of_lt less less
  induction l generalizing m with
  | nil =>
    cases m with
    | nil => rfl
    | cons b _ => exact absurd ((same b).mpr (by simp)) (by simp)
  | cons a rest ih =>
    cases m with
    | nil => exact absurd ((same a).mp (by simp)) (by simp)
    | cons b others =>
      obtain ⟨beforeA, tailA⟩ := List.pairwise_cons.mp sortedL
      obtain ⟨beforeB, tailB⟩ := List.pairwise_cons.mp sortedM
      have heads : a = b := by
        rcases List.mem_cons.mp ((same a).mp (by simp)) with equal | later
        · exact equal
        · rcases List.mem_cons.mp ((same b).mpr (by simp)) with equal | further
          · exact equal.symm
          · exact absurd (beforeA b further) (Std.OrientedCmp.not_lt_of_lt (beforeB a later))
      subst heads
      refine congrArg (a :: ·) (ih tailA tailB fun c => ⟨fun member => ?_, fun member => ?_⟩)
      · rcases List.mem_cons.mp ((same c).mp (List.mem_cons_of_mem a member)) with equal | there
        · subst equal
          exact absurd (beforeA c member) (irreflexive c)
        · exact there
      · rcases List.mem_cons.mp ((same c).mpr (List.mem_cons_of_mem a member)) with equal | there
        · subst equal
          exact absurd (beforeB c member) (irreflexive c)
        · exact there

theorem ext_mem [Std.TransCmp cmp] {s t : SortedSet α cmp} (same : ∀ a, a ∈ s ↔ a ∈ t) : s = t := by
  obtain ⟨l, sortedL⟩ := s
  obtain ⟨m, sortedM⟩ := t
  have lists : l = m := eq_of_same_members sortedL sortedM same
  subst lists
  rfl

theorem toList_ofList [Std.TransCmp cmp] [Std.LawfulEqCmp cmp] {l : List α}
    (increasing : l.Pairwise (fun a b => cmp a b = .lt)) :
    (ofList l : SortedSet α cmp).toList = l := by
  have same : (ofList l : SortedSet α cmp) = ⟨l, increasing⟩ := ext_mem fun _ => mem_ofList
  rw [same]

theorem ofList_toList [Std.TransCmp cmp] [Std.LawfulEqCmp cmp] (s : SortedSet α cmp) :
    ofList s.toList = s :=
  ext_mem fun _ => mem_ofList

theorem nodup [Std.TransCmp cmp] (s : SortedSet α cmp) : s.toList.Nodup := by
  apply s.increasing.imp
  intro a b less same
  subst same
  exact Std.OrientedCmp.not_lt_of_lt less less

theorem length_ofList [Std.TransCmp cmp] [Std.LawfulEqCmp cmp] {l : List α} (distinct : l.Nodup) :
    (ofList l : SortedSet α cmp).toList.length = l.length := by
  apply List.Perm.length_eq
  apply (List.perm_ext_iff_of_nodup (nodup _) distinct).mpr
  intro a
  exact mem_ofList

/-- Lists with the same members make the same set. -/
theorem ofList_eq_ofList_iff [Std.TransCmp cmp] [Std.LawfulEqCmp cmp] {l m : List α} :
    (ofList l : SortedSet α cmp) = ofList m ↔ ∀ a, a ∈ l ↔ a ∈ m := by
  constructor
  · intro equal a
    rw [← @mem_ofList α cmp _ _ a l, equal, mem_ofList]
  · intro same
    exact ext_mem fun a => by simp [same a]

end SortedSet

end FlowTyping
