import FlowTyping.Proofs.CoverClosure

namespace FlowTyping.Hasse

/-- What the tests on the way to a diagram have established. -/
structure Accepted (elements : List String) (covers : List (String × String)) (h : Hasse) :
    Prop where
  names_eq : h.names = elements.eraseDups
  above_eq : h.above = upSets h.names covers
  inside : ∀ c ∈ covers, c.1 ∈ h.names ∧ c.2 ∈ h.names
  acyclic : cycle? h.names h.above = none
  bounded : ∀ p ∈ pairs h.names, lacking? h.names h.above p = none
  bottom_eq : only? (h.names.filter (fun n => h.names.all (fun m => below h.above n m))) =
    some h.bottom
  top_eq : only? (h.names.filter (fun n => h.names.all (fun m => below h.above m n))) =
    some h.top

variable {elements : List String} {covers : List (String × String)} {h : Hasse}
  {a b n : String}

theorem accepted_of_ofCovers (built : ofCovers elements covers = .ok h) :
    Accepted elements covers h := by
  unfold ofCovers at built
  dsimp only at built
  split at built
  · simp at built
  · split at built
    · simp at built
    · rename_i unknown
      split at built
      · simp at built
      · rename_i acyclic
        split at built
        · simp at built
        · rename_i bounded
          split at built
          · rename_i bottom top bottomEq topEq
            obtain rfl := Except.ok.inj built
            refine ⟨rfl, rfl, ?_, acyclic, ?_, bottomEq, topEq⟩
            · intro c member
              simpa using List.find?_eq_none.mp unknown c member
            · intro p member
              exact List.findSome?_eq_none_iff.mp bounded p member
          · simp at built

theorem only?_eq_some {l : List String} : only? l = some n ↔ l = [n] := by
  unfold only?
  split
  · simp
  · rename_i other
    simp only [reduceCtorEq, false_iff]
    intro same
    exact other n same

theorem mem_pairs {names : List String} :
    (a, b) ∈ pairs names ↔ a ∈ names ∧ b ∈ names := by
  simp [pairs]

namespace Accepted

theorem below_iff (accepted : Accepted elements covers h) (known : a ∈ h.names) :
    below h.above a b = true ↔ Relation.ReflTransGen (Covered covers) a b := by
  rw [accepted.above_eq]
  exact below_upSets accepted.inside known

theorem below_refl (accepted : Accepted elements covers h) (known : a ∈ h.names) :
    below h.above a a = true :=
  (accepted.below_iff known).mpr .refl

theorem below_trans (accepted : Accepted elements covers h) {c : String} (knownA : a ∈ h.names)
    (knownB : b ∈ h.names) (first : below h.above a b = true)
    (second : below h.above b c = true) : below h.above a c = true :=
  (accepted.below_iff knownA).mpr
    (((accepted.below_iff knownA).mp first).trans ((accepted.below_iff knownB).mp second))

theorem below_antisymm (accepted : Accepted elements covers h) (knownA : a ∈ h.names)
    (knownB : b ∈ h.names) (first : below h.above a b = true)
    (second : below h.above b a = true) : a = b := by
  by_cases same : a = b
  · exact same
  · have calm := List.find?_eq_none.mp accepted.acyclic (a, b) (mem_pairs.mpr ⟨knownA, knownB⟩)
    simp [same, first, second] at calm

theorem bottom_spec (accepted : Accepted elements covers h) :
    h.bottom ∈ h.names ∧ ∀ m ∈ h.names, below h.above h.bottom m = true := by
  have single := only?_eq_some.mp accepted.bottom_eq
  have member : h.bottom ∈ h.names.filter (fun n => h.names.all (fun m => below h.above n m)) := by
    rw [single]
    simp
  simpa using member

theorem top_spec (accepted : Accepted elements covers h) :
    h.top ∈ h.names ∧ ∀ m ∈ h.names, below h.above m h.top = true := by
  have single := only?_eq_some.mp accepted.top_eq
  have member : h.top ∈ h.names.filter (fun n => h.names.all (fun m => below h.above m n)) := by
    rw [single]
    simp
  simpa using member

theorem lub_spec (accepted : Accepted elements covers h) (knownA : a ∈ h.names)
    (knownB : b ∈ h.names) :
    ∃ n ∈ h.names, h.lattice.lub (.name a) (.name b) = .name n ∧
      below h.above a n = true ∧ below h.above b n = true ∧
      ∀ m ∈ h.names, below h.above a m = true → below h.above b m = true →
        below h.above n m = true := by
  have complete := accepted.bounded (a, b) (mem_pairs.mpr ⟨knownA, knownB⟩)
  cases found : lub? h.names h.above a b with
  | none => simp [lacking?, found] at complete
  | some n =>
    have member : n ∈ [n] := by simp
    rw [← only?_eq_some.mp found] at member
    simp only [upperBounds, List.mem_filter, Bool.and_eq_true, List.all_eq_true] at member
    obtain ⟨⟨known, aboveA, aboveB⟩, least⟩ := member
    refine ⟨n, known, by simp [lattice, found], aboveA, aboveB, ?_⟩
    intro m there overA overB
    exact least m ⟨there, overA, overB⟩

theorem glb_spec (accepted : Accepted elements covers h) (knownA : a ∈ h.names)
    (knownB : b ∈ h.names) :
    ∃ n ∈ h.names, h.lattice.glb (.name a) (.name b) = .name n ∧
      below h.above n a = true ∧ below h.above n b = true ∧
      ∀ m ∈ h.names, below h.above m a = true → below h.above m b = true →
        below h.above m n = true := by
  have complete := accepted.bounded (a, b) (mem_pairs.mpr ⟨knownA, knownB⟩)
  cases found : glb? h.names h.above a b with
  | none =>
    rw [lacking?, found] at complete
    split at complete <;> simp at complete
  | some n =>
    have member : n ∈ [n] := by simp
    rw [← only?_eq_some.mp found] at member
    simp only [lowerBounds, List.mem_filter, Bool.and_eq_true, List.all_eq_true] at member
    obtain ⟨⟨known, belowA, belowB⟩, greatest⟩ := member
    refine ⟨n, known, by simp [lattice, found], belowA, belowB, ?_⟩
    intro m there underA underB
    exact greatest m ⟨there, underA, underB⟩

theorem mem_elements (accepted : Accepted elements covers h) {l : Level} :
    l ∈ h.lattice.elements ↔ ∃ n ∈ h.names, l = .name n := by
  show l ∈ h.elements ↔ _
  simp only [Hasse.elements, List.mem_map, List.mem_cons, List.mem_filter, decide_eq_true_eq]
  constructor
  · rintro ⟨n, rfl | ⟨known, _⟩, rfl⟩
    · exact ⟨_, accepted.bottom_spec.1, rfl⟩
    · exact ⟨n, known, rfl⟩
  · rintro ⟨n, known, rfl⟩
    by_cases same : n = h.bottom
    · exact ⟨n, Or.inl same, rfl⟩
    · exact ⟨n, Or.inr ⟨known, same⟩, rfl⟩

theorem lawful (accepted : Accepted elements covers h) : h.lattice.Lawful := by
  constructor <;> simp only [accepted.mem_elements, forall_exists_index, and_imp]
  case top_mem => exact ⟨h.top, accepted.top_spec.1, rfl⟩
  case bottom_mem => exact ⟨h.bottom, accepted.bottom_spec.1, rfl⟩
  case lub_mem =>
    rintro _ a knownA rfl _ b knownB rfl
    obtain ⟨n, known, same, _⟩ := accepted.lub_spec knownA knownB
    exact ⟨n, known, same⟩
  case glb_mem =>
    rintro _ a knownA rfl _ b knownB rfl
    obtain ⟨n, known, same, _⟩ := accepted.glb_spec knownA knownB
    exact ⟨n, known, same⟩
  case refl =>
    rintro _ a known rfl
    exact accepted.below_refl known
  case antisymm =>
    rintro _ a knownA rfl _ b knownB rfl first second
    exact congrArg Level.name (accepted.below_antisymm knownA knownB first second)
  case trans =>
    rintro _ a knownA rfl _ b knownB rfl _ c _ rfl first second
    exact accepted.below_trans knownA knownB first second
  case le_lub_left =>
    rintro _ a knownA rfl _ b knownB rfl
    obtain ⟨n, _, same, left, _⟩ := accepted.lub_spec knownA knownB
    rw [same]
    exact left
  case le_lub_right =>
    rintro _ a knownA rfl _ b knownB rfl
    obtain ⟨n, _, same, _, right, _⟩ := accepted.lub_spec knownA knownB
    rw [same]
    exact right
  case lub_le =>
    rintro _ a knownA rfl _ b knownB rfl _ c knownC rfl left right
    obtain ⟨n, _, same, _, _, least⟩ := accepted.lub_spec knownA knownB
    rw [same]
    exact least c knownC left right
  case glb_le_left =>
    rintro _ a knownA rfl _ b knownB rfl
    obtain ⟨n, _, same, left, _⟩ := accepted.glb_spec knownA knownB
    rw [same]
    exact left
  case glb_le_right =>
    rintro _ a knownA rfl _ b knownB rfl
    obtain ⟨n, _, same, _, right, _⟩ := accepted.glb_spec knownA knownB
    rw [same]
    exact right
  case le_glb =>
    rintro _ a knownA rfl _ b knownB rfl _ c knownC rfl left right
    obtain ⟨n, _, same, _, _, greatest⟩ := accepted.glb_spec knownA knownB
    rw [same]
    exact greatest c knownC left right
  case bottom_le =>
    rintro _ a known rfl
    exact accepted.bottom_spec.2 a known
  case le_top =>
    rintro _ a known rfl
    exact accepted.top_spec.2 a known

end Accepted

end FlowTyping.Hasse
