import FlowTyping.Domain.Powerset

namespace FlowTyping.Powerset

variable {p : Powerset}

theorem mem_choices {count : Nat} {names chosen : List String} :
    chosen ∈ choices count names ↔ chosen.Sublist names ∧ chosen.length = count := by
  induction names generalizing count chosen with
  | nil =>
    cases count with
    | zero => simp [choices]
    | succ count =>
      simp only [choices, List.not_mem_nil, List.sublist_nil, false_iff, not_and]
      rintro rfl
      simp
  | cons name rest ih =>
    cases count with
    | zero =>
      simp only [choices, List.mem_singleton, List.length_eq_zero_iff]
      constructor
      · rintro rfl
        exact ⟨List.nil_sublist _, rfl⟩
      · exact And.right
    | succ count =>
      simp only [choices, List.mem_append, List.mem_map, ih, List.sublist_cons_iff]
      constructor
      · rintro (⟨others, ⟨below, sized⟩, rfl⟩ | ⟨below, sized⟩)
        · exact ⟨Or.inr ⟨others, rfl, below⟩, by simp [sized]⟩
        · exact ⟨Or.inl below, sized⟩
      · rintro ⟨below | ⟨others, rfl, below⟩, sized⟩
        · exact Or.inr ⟨below, sized⟩
        · exact Or.inl ⟨others, ⟨below, by simpa using sized⟩, rfl⟩

theorem mem_elements {l : Level} :
    l ∈ p.lattice.elements ↔
      ∃ s : PrincipalSet, (∀ name ∈ s, name ∈ p.principals) ∧ l = .principals s := by
  show l ∈ p.elements ↔ _
  simp only [elements, List.mem_flatMap, List.mem_range, List.mem_map, mem_choices, levelOf]
  constructor
  · rintro ⟨size, _, chosen, ⟨below, _⟩, rfl⟩
    refine ⟨_, ?_, rfl⟩
    intro name member
    exact below.subset (SortedSet.mem_ofList.mp member)
  · rintro ⟨s, inside, rfl⟩
    have below : (p.principals.filter (fun name => decide (name ∈ s))).Sublist p.principals :=
      List.filter_sublist
    refine ⟨_, Nat.lt_succ_of_le below.length_le, _, ⟨below, rfl⟩, ?_⟩
    apply congrArg Level.principals
    apply SortedSet.ext_mem
    intro name
    simp only [SortedSet.mem_ofList, List.mem_filter, decide_eq_true_eq]
    constructor
    · exact And.right
    · intro member
      exact ⟨inside name member, member⟩

theorem lawful (p : Powerset) : p.lattice.Lawful := by
  constructor <;> simp only [mem_elements, forall_exists_index, and_imp]
  case top_mem =>
    refine ⟨SortedSet.ofList p.principals, ?_, rfl⟩
    intro name member
    exact SortedSet.mem_ofList.mp member
  case bottom_mem => exact ⟨.empty, by simp, rfl⟩
  case lub_mem =>
    rintro _ s insideS rfl _ t insideT rfl
    refine ⟨s.union t, ?_, rfl⟩
    intro name member
    rcases SortedSet.mem_union.mp member with left | right
    · exact insideS name left
    · exact insideT name right
  case glb_mem =>
    rintro _ s insideS rfl _ t insideT rfl
    refine ⟨s.inter t, ?_, rfl⟩
    intro name member
    exact insideS name (SortedSet.mem_inter.mp member).1
  case refl =>
    rintro _ s _ rfl
    exact SortedSet.subset_iff.mpr fun _ member => member
  case antisymm =>
    rintro _ s _ rfl _ t _ rfl first second
    have forward := SortedSet.subset_iff.mp first
    have backward := SortedSet.subset_iff.mp second
    exact congrArg Level.principals
      (SortedSet.ext_mem fun name => ⟨forward name, backward name⟩)
  case trans =>
    rintro _ s _ rfl _ t _ rfl _ u _ rfl first second
    apply SortedSet.subset_iff.mpr
    intro name member
    exact SortedSet.subset_iff.mp second name (SortedSet.subset_iff.mp first name member)
  case le_lub_left =>
    rintro _ s _ rfl _ t _ rfl
    exact SortedSet.subset_iff.mpr fun _ member => SortedSet.mem_union.mpr (Or.inl member)
  case le_lub_right =>
    rintro _ s _ rfl _ t _ rfl
    exact SortedSet.subset_iff.mpr fun _ member => SortedSet.mem_union.mpr (Or.inr member)
  case lub_le =>
    rintro _ s _ rfl _ t _ rfl _ u _ rfl first second
    apply SortedSet.subset_iff.mpr
    intro name member
    rcases SortedSet.mem_union.mp member with left | right
    · exact SortedSet.subset_iff.mp first name left
    · exact SortedSet.subset_iff.mp second name right
  case glb_le_left =>
    rintro _ s _ rfl _ t _ rfl
    exact SortedSet.subset_iff.mpr fun _ member => (SortedSet.mem_inter.mp member).1
  case glb_le_right =>
    rintro _ s _ rfl _ t _ rfl
    exact SortedSet.subset_iff.mpr fun _ member => (SortedSet.mem_inter.mp member).2
  case le_glb =>
    rintro _ s _ rfl _ t _ rfl _ u _ rfl first second
    apply SortedSet.subset_iff.mpr
    intro name member
    exact SortedSet.mem_inter.mpr ⟨SortedSet.subset_iff.mp first name member,
      SortedSet.subset_iff.mp second name member⟩
  case bottom_le =>
    rintro _ s _ rfl
    exact SortedSet.subset_iff.mpr fun name member => absurd member (SortedSet.not_mem_empty name)
  case le_top =>
    rintro _ s inside rfl
    exact SortedSet.subset_iff.mpr fun name member => SortedSet.mem_ofList.mpr (inside name member)

end FlowTyping.Powerset
