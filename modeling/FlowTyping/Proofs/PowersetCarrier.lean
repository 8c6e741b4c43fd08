import FlowTyping.Proofs.AcceptedDiagrams
import FlowTyping.Proofs.SupplyOrder
import Mathlib.Data.Nat.Choose.Sum

namespace FlowTyping

/-- A level of the carrier above some levels that is below every other such level. -/
structure LevelLattice.LeastOver {α : Type} (K : LevelLattice α) (levels : List α) (n : α) :
    Prop where
  known : n ∈ K.elements
  above : ∀ l ∈ levels, K.le l n = true
  least : ∀ m ∈ K.elements, (∀ l ∈ levels, K.le l m = true) → K.le n m = true

namespace LevelLattice.Lawful

variable {α : Type} {K : LevelLattice α} {levels : List α} {a b : α}

theorem leastOver_lub (lawful : K.Lawful) (knownA : a ∈ K.elements) (knownB : b ∈ K.elements) :
    K.LeastOver [a, b] (K.lub a b) where
  known := lawful.lub_mem a knownA b knownB
  above l member := by
    rcases List.mem_pair.mp member with same | same
    · exact same ▸ lawful.le_lub_left a knownA b knownB
    · exact same ▸ lawful.le_lub_right a knownA b knownB
  least m inside above :=
    lawful.lub_le a knownA b knownB m inside (above a (by simp)) (above b (by simp))

theorem leastOver_joinAll (lawful : K.Lawful) (known : ∀ l ∈ levels, l ∈ K.elements) :
    K.LeastOver levels (K.joinAll levels) where
  known := lawful.joinAll_mem known
  above _ member := lawful.le_joinAll known member
  least _ inside above := lawful.joinAll_le known inside above

end LevelLattice.Lawful

namespace Powerset

variable {p : Powerset} {names chosen : List String} {count : Nat}

theorem length_choices (count : Nat) (names : List String) :
    (choices count names).length = names.length.choose count := by
  induction names generalizing count with
  | nil => cases count <;> simp [choices]
  | cons name rest ih =>
    cases count with
    | zero => simp [choices]
    | succ count =>
      rw [choices, List.length_append, List.length_map, ih, ih, List.length_cons,
        Nat.choose_succ_succ]

theorem nodup_choices (distinct : names.Nodup) (count : Nat) : (choices count names).Nodup := by
  induction names generalizing count with
  | nil => cases count <;> simp [choices]
  | cons name rest ih =>
    obtain ⟨new, distinct⟩ := List.nodup_cons.mp distinct
    cases count with
    | zero => simp [choices]
    | succ count =>
      have consed : ((choices count rest).map (name :: ·)).Nodup :=
        (ih distinct count).map (fun _ _ same => (List.cons.inj same).2)
      refine consed.append (ih distinct (count + 1)) ?_
      -- The name is in each choice of the first half and in none of the second.
      intro choice first second
      obtain ⟨others, _, rfl⟩ := List.mem_map.mp first
      exact new ((mem_choices.mp second).1.subset List.mem_cons_self)

/-- A choice among distinct names is told by its members. -/
theorem choice_eq_of_same_members {other : List String} (distinct : names.Nodup)
    (below : chosen.Sublist names) (otherBelow : other.Sublist names)
    (same : ∀ name, name ∈ chosen ↔ name ∈ other) : chosen = other := by
  induction names generalizing chosen other with
  | nil => rw [List.sublist_nil.mp below, List.sublist_nil.mp otherBelow]
  | cons name rest ih =>
    obtain ⟨new, distinct⟩ := List.nodup_cons.mp distinct
    rcases List.sublist_cons_iff.mp below with first | ⟨chosenRest, rfl, first⟩ <;>
      rcases List.sublist_cons_iff.mp otherBelow with second | ⟨otherRest, rfl, second⟩
    · exact ih distinct first second same
    · exact absurd (first.subset ((same name).mpr List.mem_cons_self)) new
    · exact absurd (second.subset ((same name).mp List.mem_cons_self)) new
    · apply congrArg (name :: ·)
      apply ih distinct first second
      intro member
      by_cases here : member = name
      · subst here
        exact ⟨fun inside => absurd (first.subset inside) new,
          fun inside => absurd (second.subset inside) new⟩
      · simpa [here] using same member

theorem levelOf_inj {other : List String} (distinct : names.Nodup)
    (below : chosen.Sublist names) (otherBelow : other.Sublist names)
    (same : levelOf chosen = levelOf other) : chosen = other := by
  apply choice_eq_of_same_members distinct below otherBelow
  exact SortedSet.ofList_eq_ofList_iff.mp (Level.principals.inj same)

theorem length_members_levelOf (distinct : chosen.Nodup) :
    (levelOf chosen).members.length = chosen.length :=
  SortedSet.length_ofList distinct

/-- The principals of an accepted domain are the names it was given, each once. -/
theorem principals_of_ofPrincipals (accepted : ofPrincipals names = .ok p) :
    p.principals = names.eraseDups := by
  simp only [ofPrincipals] at accepted
  split at accepted
  · cases accepted
  · split at accepted
    · cases accepted
    · rw [← Except.ok.inj accepted]

section Listed

variable (distinct : p.principals.Nodup)
include distinct

theorem size_of_mem_choices {l : Level}
    (member : l ∈ (choices count p.principals).map levelOf) : l.members.length = count := by
  obtain ⟨chosen, listed, rfl⟩ := List.mem_map.mp member
  obtain ⟨below, sized⟩ := mem_choices.mp listed
  rw [length_members_levelOf (distinct.sublist below), sized]

theorem elements_pairwise :
    p.elements.Pairwise (fun a b => a ≠ b ∧ a.members.length ≤ b.members.length) := by
  refine List.pairwise_flatMap.mpr ⟨?_, ?_⟩
  · intro size _
    apply List.pairwise_map.mpr
    apply (nodup_choices distinct size).imp_of_mem
    intro chosen other first second apart
    have sized := size_of_mem_choices distinct (List.mem_map.mpr ⟨chosen, first, rfl⟩)
    have otherSized := size_of_mem_choices distinct (List.mem_map.mpr ⟨other, second, rfl⟩)
    refine ⟨fun same => apart ?_, Nat.le_of_eq (sized.trans otherSized.symm)⟩
    exact levelOf_inj distinct (mem_choices.mp first).1 (mem_choices.mp second).1 same
  · apply List.pairwise_lt_range.imp
    intro size larger less a first b second
    have sized := size_of_mem_choices distinct first
    have otherSized := size_of_mem_choices distinct second
    constructor
    · intro same
      rw [same] at sized
      omega
    · omega

end Listed

theorem length_elements (p : Powerset) : p.elements.length = 2 ^ p.principals.length := by
  rw [elements, List.length_flatMap, ← Nat.sum_range_choose]
  simp only [List.length_map, length_choices]
  rfl

theorem head?_elements (p : Powerset) : p.elements.head? = some p.lattice.bottom := by
  rw [elements, List.range_succ_eq_map, List.flatMap_cons, choices]
  rfl

theorem level_eq_ok {l : Level} :
    p.level chosen = .ok l ↔ (∀ name ∈ chosen, name ∈ p.principals) ∧ l = levelOf chosen := by
  have known : chosen.find? (fun name => !p.principals.contains name) = none ↔
      ∀ name ∈ chosen, name ∈ p.principals := by simp
  unfold level
  split
  · rename_i name unknown
    have missing : ¬ ∀ name ∈ chosen, name ∈ p.principals := by
      rw [← known, unknown]
      exact Option.some_ne_none name
    exact ⟨fun accepted => (by cases accepted), fun accepted => absurd accepted.1 missing⟩
  · rename_i none
    rw [Except.ok.injEq, eq_comm]
    exact ⟨fun same => ⟨known.mp none, same⟩, And.right⟩

theorem mem_elements_of_level {l : Level} (accepted : p.level chosen = .ok l) :
    l ∈ p.lattice.elements := by
  obtain ⟨known, rfl⟩ := level_eq_ok.mp accepted
  refine mem_elements.mpr ⟨_, ?_, rfl⟩
  intro name member
  exact known name (SortedSet.mem_ofList.mp member)

theorem mem_elements_of_parse {text : String} {l : Level} (read : p.parse text = .ok l) :
    l ∈ p.lattice.elements := by
  unfold parse at read
  split at read
  · cases read
  · simp only at read
    split at read
    · cases read
      exact (lawful p).bottom_mem
    · split at read
      · cases read
      · exact mem_elements_of_level read

/-- The levels of a domain are the sets over some names, each listed once, the empty one first
and smaller ones before larger ones. -/
structure Enumerates (p : Powerset) (names : List String) : Prop where
  sets : ∀ l, l ∈ p.elements ↔
    ∃ s : PrincipalSet, (∀ name ∈ s, name ∈ names) ∧ l = .principals s
  once : p.elements.Nodup
  sized : p.elements.Pairwise (fun a b => a.members.length ≤ b.members.length)
  bottom_first : p.elements.head? = some p.lattice.bottom
  number : p.elements.length = 2 ^ names.toFinset.card

theorem enumerates (accepted : ofPrincipals names = .ok p) : p.Enumerates names := by
  have principals := principals_of_ofPrincipals accepted
  have distinct : p.principals.Nodup := principals ▸ Hasse.nodup_eraseDups names
  have listed : ∀ name, name ∈ p.principals ↔ name ∈ names := by
    intro name
    rw [principals, List.mem_eraseDups]
  have ordered := elements_pairwise distinct
  refine ⟨?_, ordered.imp And.left, ordered.imp And.right, head?_elements p, ?_⟩
  · intro l
    simp only [← listed]
    exact mem_elements
  · have counted : names.toFinset = p.principals.toFinset := by
      ext name
      simp [listed]
    rw [counted, List.toFinset_card_of_nodup distinct, length_elements]

/-- The carrier of a domain over accepted principals, however often these are repeated, is
complete. It lists every set of principals once, by size. Its order is inclusion, no operation
and no reading leads out of it, and the join and the meet of any of its levels are their least
upper and greatest lower bound, in whatever order and however often the levels are given. -/
theorem carrier_complete (accepted : ofPrincipals names = .ok p) :
    p.Enumerates names ∧
      (∀ s t, p.lattice.le (.principals s) (.principals t) = true ↔ ∀ name ∈ s, name ∈ t) ∧
      p.lattice.bottom ∈ p.elements ∧ p.lattice.top ∈ p.elements ∧
      (∀ a ∈ p.elements, ∀ b ∈ p.elements, ∃ join meet,
        p.lattice.LeastOver [a, b] join ∧ p.lattice.dual.LeastOver [a, b] meet ∧
          (Domain.powerset p).lub? (.level a) (.level b) = .ok (.level join) ∧
          (Domain.powerset p).glb? (.level a) (.level b) = .ok (.level meet)) ∧
      (∀ chosen l, p.level chosen = .ok l ↔
        (∀ name ∈ chosen, name ∈ names) ∧ l = levelOf chosen ∧ l ∈ p.elements) ∧
      (∀ text l, p.parse text = .ok l → l ∈ p.elements) ∧
      ∀ levels, (∀ l ∈ levels, l ∈ p.elements) → ∃ join meet,
        p.lattice.LeastOver levels join ∧ p.lattice.dual.LeastOver levels meet ∧
          ∀ given, (∀ l, l ∈ levels ↔ l ∈ given) →
            (Domain.powerset p).joinLevels? given = .ok join ∧
              (Domain.powerset p).meetLevels? given = .ok meet := by
  have built : (Domain.powerset p).Built := .powerset accepted
  have lawful := lawful p
  have listed : ∀ name, name ∈ p.principals ↔ name ∈ names := by
    intro name
    rw [principals_of_ofPrincipals accepted, List.mem_eraseDups]
  refine ⟨enumerates accepted, fun s t => SortedSet.subset_iff, lawful.bottom_mem, lawful.top_mem,
    ?_, ?_, fun text l => mem_elements_of_parse, ?_⟩
  · intro a knownA b knownB
    exact ⟨_, _, lawful.leastOver_lub knownA knownB, lawful.dual.leastOver_lub knownA knownB,
      built.lub?_eq knownA knownB, built.glb?_eq knownA knownB⟩
  · intro chosen l
    simp only [← listed]
    constructor
    · intro read
      obtain ⟨known, same⟩ := level_eq_ok.mp read
      exact ⟨known, same, mem_elements_of_level read⟩
    · intro made
      exact level_eq_ok.mpr ⟨made.1, made.2.1⟩
  · intro levels known
    refine ⟨_, _, lawful.leastOver_joinAll known, lawful.dual.leastOver_joinAll known, ?_⟩
    intro given same
    have knownGiven : ∀ l ∈ given, l ∈ p.elements := fun l member => known l ((same l).mpr member)
    constructor
    · rw [built.joinLevels?_eq knownGiven]
      exact congrArg Except.ok (lawful.joinAll_congr known same).symm
    · rw [built.meetLevels?_eq knownGiven]
      exact congrArg Except.ok (lawful.meetAll_congr known same).symm

/-- Two principals, one of them named twice. -/
theorem carrier_complete_repeated :
    ofPrincipals ["bob", "alice", "bob"] = .ok ⟨["bob", "alice"]⟩ ∧
      (⟨["bob", "alice"]⟩ : Powerset).elements.length = 4 ∧
      (∃ join, (⟨["bob", "alice"]⟩ : Powerset).lattice.LeastOver
          [levelOf ["bob"], levelOf ["alice"]] join ∧
        (Domain.powerset ⟨["bob", "alice"]⟩).joinLevels?
          [levelOf ["alice"], levelOf ["bob"], levelOf ["alice"]] = .ok join) := by
  have accepted : ofPrincipals ["bob", "alice", "bob"] = .ok ⟨["bob", "alice"]⟩ := by decide
  obtain ⟨enumerated, _, _, _, _, read, _, bounds⟩ := carrier_complete accepted
  have known : ∀ l ∈ [levelOf ["bob"], levelOf ["alice"]],
      l ∈ (⟨["bob", "alice"]⟩ : Powerset).elements := by decide
  obtain ⟨join, _, least, _, given⟩ := bounds _ known
  exact ⟨accepted, enumerated.number, join, least, (given _ (by simp [or_comm])).1⟩

end Powerset

end FlowTyping
