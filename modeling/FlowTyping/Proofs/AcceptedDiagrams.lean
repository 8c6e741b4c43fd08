import FlowTyping.Proofs.HasseLattice
import FlowTyping.Proofs.LatticeLaws

/-!
Which diagrams are accepted, and as what. A diagram is accepted exactly if it has a name, its
covers join names it has, and the order that the covers generate is antisymmetric and gives every
two names a least upper and a greatest lower bound. Bounds of pairs make bounds of all names, one
name at a time, so the test for unique extremes, which comes last, never fails. What is built is
that order.
-/

namespace FlowTyping.Hasse

variable {elements names l : List String} {covers : List (String × String)} {h : Hasse}
  {a b n : String}

/-- A chain of covers leads from the lower name up to the upper one. -/
def Under (covers : List (String × String)) : String → String → Prop :=
  Relation.ReflTransGen (Covered covers)

/-- A name that two names come before and that comes before every other such name. -/
structure Nearest (before : String → String → Prop) (names : List String) (a b n : String) :
    Prop where
  known : n ∈ names
  left : before a n
  right : before b n
  nearest : ∀ m ∈ names, before a m → before b m → before n m

/-- Names and covers that describe a bounded lattice. -/
structure BoundedDiagram (elements : List String) (covers : List (String × String)) : Prop where
  inhabited : elements ≠ []
  inside : ∀ c ∈ covers, c.1 ∈ elements ∧ c.2 ∈ elements
  antisymm : ∀ a ∈ elements, ∀ b ∈ elements, Under covers a b → Under covers b a → a = b
  lub : ∀ a ∈ elements, ∀ b ∈ elements, ∃ n, Nearest (Under covers) elements a b n
  glb : ∀ a ∈ elements, ∀ b ∈ elements,
    ∃ n, Nearest (fun x y => Under covers y x) elements a b n

/-- What has been tested before the extremes are looked for. -/
structure Tested (elements : List String) (covers : List (String × String)) : Prop where
  inhabited : elements.eraseDups.isEmpty = false
  inside : covers.find? (fun c =>
    !(elements.eraseDups.contains c.1 && elements.eraseDups.contains c.2)) = none
  acyclic : cycle? elements.eraseDups (upSets elements.eraseDups covers) = none
  bounded : (pairs elements.eraseDups).findSome?
    (lacking? elements.eraseDups (upSets elements.eraseDups covers)) = none

theorem nodup_eraseDups (l : List String) : l.eraseDups.Nodup := by
  induction sized : l.length using Nat.strongRecOn generalizing l with
  | ind size ih =>
    cases l with
    | nil => simp
    | cons first rest =>
      have shorter : (rest.filter (fun b => !b == first)).length < size := by
        have kept := List.length_filter_le (fun b => !b == first) rest
        rw [List.length_cons] at sized
        omega
      rw [List.eraseDups_cons, List.nodup_cons]
      refine ⟨?_, ih _ shorter _ rfl⟩
      intro again
      simpa using List.mem_eraseDups.mp again

/-- A name that comes first among distinct ones is the only one to do so. -/
theorem only?_first {first : String → String → Bool} (distinct : l.Nodup)
    (antisymm : ∀ x ∈ l, ∀ y ∈ l, first x y = true → first y x = true → x = y) :
    only? (l.filter (fun n => l.all (fun m => first n m))) = some n ↔
      n ∈ l ∧ ∀ m ∈ l, first n m = true := by
  have member : ∀ x, x ∈ l.filter (fun n => l.all (fun m => first n m)) ↔
      x ∈ l ∧ ∀ m ∈ l, first x m = true := by
    intro x
    simp
  rw [only?_eq_some, ← member n]
  constructor
  · intro single
    rw [single]
    exact List.mem_singleton.mpr rfl
  · intro best
    apply List.perm_singleton.mp
    apply (List.perm_ext_iff_of_nodup (distinct.filter _) (List.pairwise_singleton _ n)).mpr
    intro x
    rw [List.mem_singleton]
    constructor
    · intro other
      obtain ⟨inX, firstX⟩ := (member x).mp other
      obtain ⟨inN, firstN⟩ := (member n).mp best
      exact antisymm x inX n inN (firstX n inN) (firstN x inX)
    · intro same
      exact same ▸ best

/-- The name that comes first among those that two names come before, if there is exactly one. -/
def nearest? (before : String → String → Bool) (names : List String) (a b : String) :
    Option String :=
  let bounds := names.filter (fun n => before a n && before b n)
  only? (bounds.filter (fun n => bounds.all (fun m => before n m)))

theorem lub?_eq_nearest? (names : List String) (above : List (String × List String)) :
    lub? names above = nearest? (below above) names := rfl

theorem glb?_eq_nearest? (names : List String) (above : List (String × List String)) :
    glb? names above = nearest? (fun x y => below above y x) names := rfl

theorem nearest?_eq_some {before : String → String → Bool} (distinct : names.Nodup)
    (antisymm : ∀ x ∈ names, ∀ y ∈ names, before x y = true → before y x = true → x = y) :
    nearest? before names a b = some n ↔ Nearest (fun x y => before x y = true) names a b n := by
  have inside : ∀ x, x ∈ names.filter (fun n => before a n && before b n) ↔
      x ∈ names ∧ before a x = true ∧ before b x = true := by
    intro x
    simp
  rw [nearest?, only?_first (distinct.filter _)
    fun x inX y inY => antisymm x ((inside x).mp inX).1 y ((inside y).mp inY).1]
  simp only [inside]
  constructor
  · intro best
    obtain ⟨⟨known, left, right⟩, first⟩ := best
    exact ⟨known, left, right, fun m inM overA overB => first m ⟨inM, overA, overB⟩⟩
  · intro nearest
    refine ⟨⟨nearest.known, nearest.left, nearest.right⟩, ?_⟩
    intro m bound
    exact nearest.nearest m bound.1 bound.2.1 bound.2.2

/-- Where every two names have a bound, all names of a list have one. -/
theorem exists_bound {before : String → String → Prop} (inhabited : names ≠ [])
    (trans : ∀ x y z, before x y → before y z → before x z)
    (bounds : ∀ a ∈ names, ∀ b ∈ names, ∃ n, Nearest before names a b n) :
    ∀ l : List String, (∀ m ∈ l, m ∈ names) → ∃ n ∈ names, ∀ m ∈ l, before m n := by
  intro l
  induction l with
  | nil =>
    intro _
    obtain ⟨n, known⟩ := List.exists_mem_of_ne_nil names inhabited
    exact ⟨n, known, fun m none => absurd none List.not_mem_nil⟩
  | cons first rest ih =>
    intro inside
    obtain ⟨high, known, above⟩ := ih fun m later => inside m (List.mem_cons_of_mem first later)
    obtain ⟨n, nearest⟩ := bounds first (inside first List.mem_cons_self) high known
    refine ⟨n, nearest.known, ?_⟩
    intro m member
    rcases List.mem_cons.mp member with same | later
    · subst same
      exact nearest.left
    · exact trans m high n (above m later) nearest.right

/-- Which names are nearest depends on the order of the names alone. -/
theorem nearest_congr {before after : String → String → Prop}
    (same : ∀ x ∈ names, ∀ y ∈ names, (before x y ↔ after x y)) (inA : a ∈ names)
    (inB : b ∈ names) : Nearest before names a b n ↔ Nearest after names a b n := by
  constructor
  · intro nearest
    obtain ⟨known, left, right, first⟩ := nearest
    refine ⟨known, (same a inA n known).mp left, (same b inB n known).mp right, ?_⟩
    intro m inM overA overB
    exact (same n known m inM).mp
      (first m inM ((same a inA m inM).mpr overA) ((same b inB m inM).mpr overB))
  · intro nearest
    obtain ⟨known, left, right, first⟩ := nearest
    refine ⟨known, (same a inA n known).mpr left, (same b inB n known).mpr right, ?_⟩
    intro m inM overA overB
    exact (same n known m inM).mpr
      (first m inM ((same a inA m inM).mp overA) ((same b inB m inM).mp overB))

theorem cycle?_eq_none {above : List (String × List String)} :
    cycle? names above = none ↔ ∀ x ∈ names, ∀ y ∈ names,
      below above x y = true → below above y x = true → x = y := by
  rw [cycle?, List.find?_eq_none]
  constructor
  · intro calm x inX y inY up down
    by_cases same : x = y
    · exact same
    · exact absurd (by simp [same, up, down]) (calm (x, y) (mem_pairs.mpr ⟨inX, inY⟩))
  · intro antisymm p listed turning
    obtain ⟨x, y⟩ := p
    obtain ⟨inX, inY⟩ := mem_pairs.mp listed
    simp only [ne_eq, Bool.and_eq_true, decide_eq_true_eq] at turning
    exact turning.1.1 (antisymm x inX y inY turning.1.2 turning.2)

theorem findSome?_lacking? {above : List (String × List String)} :
    (pairs names).findSome? (lacking? names above) = none ↔ ∀ a ∈ names, ∀ b ∈ names,
      (∃ n, lub? names above a b = some n) ∧ ∃ n, glb? names above a b = some n := by
  have whole : ∀ p : String × String, lacking? names above p = none ↔
      (∃ n, lub? names above p.1 p.2 = some n) ∧ ∃ n, glb? names above p.1 p.2 = some n := by
    intro p
    unfold lacking?
    cases lub? names above p.1 p.2 <;> cases glb? names above p.1 p.2 <;> simp
  simp only [List.findSome?_eq_none_iff, whole]
  constructor
  · intro all a inA b inB
    exact all (a, b) (mem_pairs.mpr ⟨inA, inB⟩)
  · intro all p listed
    obtain ⟨inA, inB⟩ := mem_pairs.mp listed
    exact all p.1 inA p.2 inB

theorem below_upSets_iff (inside : ∀ c ∈ covers, c.1 ∈ elements ∧ c.2 ∈ elements)
    (known : a ∈ elements) :
    below (upSets elements.eraseDups covers) a b = true ↔ Under covers a b := by
  apply below_upSets ?_ (List.mem_eraseDups.mpr known)
  intro c member
  rw [List.mem_eraseDups, List.mem_eraseDups]
  exact inside c member

section Names

variable {before : String → String → Bool} {under : String → String → Prop}
variable (same : ∀ x ∈ elements, ∀ y ∈ elements, (before x y = true ↔ under x y))
variable (antisymm : ∀ x ∈ elements, ∀ y ∈ elements, under x y → under y x → x = y)
include same antisymm

theorem nearest?_eraseDups (inA : a ∈ elements) (inB : b ∈ elements) :
    nearest? before elements.eraseDups a b = some n ↔ Nearest under elements a b n := by
  have distinct : ∀ x ∈ elements.eraseDups, ∀ y ∈ elements.eraseDups,
      before x y = true → before y x = true → x = y := by
    intro x inX y inY up down
    rw [List.mem_eraseDups] at inX inY
    exact antisymm x inX y inY ((same x inX y inY).mp up) ((same y inY x inX).mp down)
  have listed : Nearest (fun x y => before x y = true) elements.eraseDups a b n ↔
      Nearest (fun x y => before x y = true) elements a b n := by
    constructor
    · intro nearest
      exact ⟨List.mem_eraseDups.mp nearest.known, nearest.left, nearest.right,
        fun m inM => nearest.nearest m (List.mem_eraseDups.mpr inM)⟩
    · intro nearest
      exact ⟨List.mem_eraseDups.mpr nearest.known, nearest.left, nearest.right,
        fun m inM => nearest.nearest m (List.mem_eraseDups.mp inM)⟩
  rw [nearest?_eq_some (nodup_eraseDups elements) distinct, listed, nearest_congr same inA inB]

end Names

theorem bounds_iff (inside : ∀ c ∈ covers, c.1 ∈ elements ∧ c.2 ∈ elements)
    (antisymm : ∀ x ∈ elements, ∀ y ∈ elements, Under covers x y → Under covers y x → x = y)
    (inA : a ∈ elements) (inB : b ∈ elements) :
    (lub? elements.eraseDups (upSets elements.eraseDups covers) a b = some n ↔
        Nearest (Under covers) elements a b n) ∧
      (glb? elements.eraseDups (upSets elements.eraseDups covers) a b = some n ↔
        Nearest (fun x y => Under covers y x) elements a b n) := by
  rw [lub?_eq_nearest?, glb?_eq_nearest?]
  constructor
  · exact nearest?_eraseDups (fun x inX y _ => below_upSets_iff inside inX) antisymm inA inB
  · exact nearest?_eraseDups (fun x _ y inY => below_upSets_iff inside inY)
      (fun x inX y inY up down => antisymm x inX y inY down up) inA inB

/-- The tests ask for what makes a diagram that of a bounded lattice. -/
theorem tested_iff : Tested elements covers ↔ BoundedDiagram elements covers := by
  have inhabited : elements.eraseDups.isEmpty = false ↔ elements ≠ [] := by
    cases elements with
    | nil => simp
    | cons first rest => simp [List.eraseDups_cons]
  have inside : covers.find? (fun c =>
      !(elements.eraseDups.contains c.1 && elements.eraseDups.contains c.2)) = none ↔
      ∀ c ∈ covers, c.1 ∈ elements ∧ c.2 ∈ elements := by
    simp
  have acyclic (within : ∀ c ∈ covers, c.1 ∈ elements ∧ c.2 ∈ elements) :
      cycle? elements.eraseDups (upSets elements.eraseDups covers) = none ↔
        ∀ a ∈ elements, ∀ b ∈ elements, Under covers a b → Under covers b a → a = b := by
    simp only [cycle?_eq_none, List.mem_eraseDups]
    refine forall₂_congr fun a inA => forall₂_congr fun b inB => ?_
    rw [below_upSets_iff within inA, below_upSets_iff within inB]
  constructor
  · intro tested
    have within := inside.mp tested.inside
    have antisymm := (acyclic within).mp tested.acyclic
    have bounds := findSome?_lacking?.mp tested.bounded
    simp only [List.mem_eraseDups] at bounds
    refine ⟨inhabited.mp tested.inhabited, within, antisymm, ?_, ?_⟩
    · intro a inA b inB
      obtain ⟨⟨n, found⟩, _⟩ := bounds a inA b inB
      exact ⟨n, (bounds_iff within antisymm inA inB).1.mp found⟩
    · intro a inA b inB
      obtain ⟨_, n, found⟩ := bounds a inA b inB
      exact ⟨n, (bounds_iff within antisymm inA inB).2.mp found⟩
  · intro diagram
    refine ⟨inhabited.mpr diagram.inhabited, inside.mpr diagram.inside,
      (acyclic diagram.inside).mpr diagram.antisymm, findSome?_lacking?.mpr ?_⟩
    intro a inA b inB
    rw [List.mem_eraseDups] at inA inB
    obtain ⟨upper, lub⟩ := diagram.lub a inA b inB
    obtain ⟨lower, glb⟩ := diagram.glb a inA b inB
    have bounds n := bounds_iff (n := n) diagram.inside diagram.antisymm inA inB
    exact ⟨⟨upper, (bounds upper).1.mpr lub⟩, ⟨lower, (bounds lower).2.mpr glb⟩⟩

/-- A name that comes before all others is the only one that is found to. -/
theorem only?_extreme {before : String → String → Bool} {under : String → String → Prop}
    (same : ∀ x ∈ elements, ∀ y ∈ elements, (before x y = true ↔ under x y))
    (antisymm : ∀ x ∈ elements, ∀ y ∈ elements, under x y → under y x → x = y)
    (known : n ∈ elements) (extreme : ∀ m ∈ elements, under n m) :
    only? (elements.eraseDups.filter
      (fun n => elements.eraseDups.all (fun m => before n m))) = some n := by
  apply (only?_first (nodup_eraseDups elements) ?_).mpr
  · refine ⟨List.mem_eraseDups.mpr known, ?_⟩
    intro m listed
    have inM := List.mem_eraseDups.mp listed
    exact (same n known m inM).mpr (extreme m inM)
  · intro x inX y inY up down
    rw [List.mem_eraseDups] at inX inY
    exact antisymm x inX y inY ((same x inX y inY).mp up) ((same y inY x inX).mp down)

namespace BoundedDiagram

theorem exists_bottom (diagram : BoundedDiagram elements covers) :
    ∃ n ∈ elements, ∀ m ∈ elements, Under covers n m :=
  exists_bound diagram.inhabited (fun _ _ _ first second => second.trans first) diagram.glb
    elements fun _ member => member

theorem exists_top (diagram : BoundedDiagram elements covers) :
    ∃ n ∈ elements, ∀ m ∈ elements, Under covers m n :=
  exists_bound diagram.inhabited (fun _ _ _ first second => first.trans second) diagram.lub
    elements fun _ member => member

theorem accepted (diagram : BoundedDiagram elements covers) :
    ∃ h, ofCovers elements covers = .ok h := by
  have tested := tested_iff.mpr diagram
  obtain ⟨bottom, knownBottom, under⟩ := diagram.exists_bottom
  obtain ⟨top, knownTop, above⟩ := diagram.exists_top
  have bottoms := only?_extreme (fun x inX y _ => below_upSets_iff diagram.inside inX) diagram.antisymm
    knownBottom under
  have tops : only? (elements.eraseDups.filter (fun n => elements.eraseDups.all
      (fun m => below (upSets elements.eraseDups covers) m n))) = some top :=
    only?_extreme (fun x _ y inY => below_upSets_iff diagram.inside inY)
      (fun x inX y inY up down => diagram.antisymm x inX y inY down up) knownTop above
  refine ⟨⟨elements.eraseDups, upSets elements.eraseDups covers, bottom, top⟩, ?_⟩
  unfold ofCovers
  simp only [tested.inhabited, tested.inside, tested.acyclic, tested.bounded, bottoms, tops,
    Bool.false_eq_true, if_false]

end BoundedDiagram

/-- A diagram that fails a test is refused for it, before the extremes are looked for. -/
theorem refused_of_not_tested (failed : ¬ Tested elements covers) :
    ∃ error, ofCovers elements covers = .error error ∧ error ≠ .noUniqueExtremes := by
  unfold ofCovers
  dsimp only
  split
  · exact ⟨_, rfl, by simp⟩
  · rename_i inhabited
    split
    · exact ⟨_, rfl, by simp⟩
    · rename_i inside
      split
      · exact ⟨_, rfl, by simp⟩
      · rename_i acyclic
        split
        · rename_i problem found
          refine ⟨problem, rfl, ?_⟩
          obtain ⟨p, _, lacks⟩ := List.exists_of_findSome?_eq_some found
          intro same
          subst same
          unfold lacking? at lacks
          split at lacks
          · cases lacks
          · split at lacks <;> cases lacks
        · rename_i bounded
          exact absurd ⟨by simpa using inhabited, inside, acyclic, bounded⟩ failed

/-- What was built is the order that the covers generate: compared, joined and met in it, with its
extremes, its distinct names listed from the bottom on, and no law broken by any three of them. -/
structure Realizes (h : Hasse) (elements : List String) (covers : List (String × String)) :
    Prop where
  le_iff : ∀ a ∈ elements, ∀ b ∈ elements,
    (h.lattice.le (.name a) (.name b) = true ↔ Under covers a b)
  lub : ∀ a ∈ elements, ∀ b ∈ elements, ∃ n, h.lattice.lub (.name a) (.name b) = .name n ∧
    Nearest (Under covers) elements a b n
  glb : ∀ a ∈ elements, ∀ b ∈ elements, ∃ n, h.lattice.glb (.name a) (.name b) = .name n ∧
    Nearest (fun x y => Under covers y x) elements a b n
  bottom : ∃ n ∈ elements, h.lattice.bottom = .name n ∧ ∀ m ∈ elements, Under covers n m
  top : ∃ n ∈ elements, h.lattice.top = .name n ∧ ∀ m ∈ elements, Under covers m n
  listed : ∀ l, l ∈ h.lattice.elements ↔ ∃ n ∈ elements, l = .name n
  once : h.lattice.elements.Nodup
  first : h.lattice.elements.head? = some h.lattice.bottom
  laws : ∀ a ∈ h.lattice.elements, ∀ b ∈ h.lattice.elements, ∀ c ∈ h.lattice.elements,
    (Domain.hasse h).checkLaws (.level a) (.level b) (.level c) = .ok ()

namespace Accepted

theorem mem_names (accepted : Accepted elements covers h) : n ∈ h.names ↔ n ∈ elements := by
  rw [accepted.names_eq, List.mem_eraseDups]

theorem under_iff (accepted : Accepted elements covers h) (known : a ∈ elements) :
    below h.above a b = true ↔ Under covers a b :=
  accepted.below_iff (accepted.mem_names.mpr known)

theorem nodup_elements (accepted : Accepted elements covers h) : h.lattice.elements.Nodup := by
  have distinct : h.names.Nodup := accepted.names_eq ▸ nodup_eraseDups elements
  have others : h.bottom ∉ h.names.filter (fun n => decide (n ≠ h.bottom)) := by
    simp
  refine List.Pairwise.map _ ?_ (List.nodup_cons.mpr ⟨others, distinct.filter _⟩)
  intro x y apart same
  exact apart (Level.name.inj same)

theorem realizes (accepted : Accepted elements covers h)
    (built : ofCovers elements covers = .ok h) : h.Realizes elements covers where
  le_iff a inA b _ := accepted.under_iff inA
  lub a inA b inB := by
    obtain ⟨n, known, same, left, right, least⟩ :=
      accepted.lub_spec (accepted.mem_names.mpr inA) (accepted.mem_names.mpr inB)
    have inN := accepted.mem_names.mp known
    refine ⟨n, same, inN, (accepted.under_iff inA).mp left, (accepted.under_iff inB).mp right, ?_⟩
    intro m inM overA overB
    exact (accepted.under_iff inN).mp (least m (accepted.mem_names.mpr inM)
      ((accepted.under_iff inA).mpr overA) ((accepted.under_iff inB).mpr overB))
  glb a inA b inB := by
    obtain ⟨n, known, same, left, right, greatest⟩ :=
      accepted.glb_spec (accepted.mem_names.mpr inA) (accepted.mem_names.mpr inB)
    have inN := accepted.mem_names.mp known
    refine ⟨n, same, inN, (accepted.under_iff inN).mp left, (accepted.under_iff inN).mp right, ?_⟩
    intro m inM underA underB
    exact (accepted.under_iff inM).mp (greatest m (accepted.mem_names.mpr inM)
      ((accepted.under_iff inM).mpr underA) ((accepted.under_iff inM).mpr underB))
  bottom := by
    obtain ⟨known, least⟩ := accepted.bottom_spec
    have inN := accepted.mem_names.mp known
    refine ⟨h.bottom, inN, rfl, ?_⟩
    intro m inM
    exact (accepted.under_iff inN).mp (least m (accepted.mem_names.mpr inM))
  top := by
    obtain ⟨known, greatest⟩ := accepted.top_spec
    refine ⟨h.top, accepted.mem_names.mp known, rfl, ?_⟩
    intro m inM
    exact (accepted.under_iff inM).mp (greatest m (accepted.mem_names.mpr inM))
  listed l := by
    rw [accepted.mem_elements]
    simp only [accepted.mem_names]
  once := accepted.nodup_elements
  first := rfl
  laws _ knownA _ knownB _ knownC := (Domain.Built.hasse built).checkLaws_eq knownA knownB knownC

end Accepted

/-- The diagrams that are accepted are exactly those of bounded lattices, and what is built from
one is its lattice. Every other diagram is refused, and never for want of unique extremes. -/
theorem diagrams_accepted_exactly (elements : List String) (covers : List (String × String)) :
    (BoundedDiagram elements covers →
        ∃ h, ofCovers elements covers = .ok h ∧ h.Realizes elements covers) ∧
      (¬ BoundedDiagram elements covers →
        ∃ error : LatticeError, ofCovers elements covers = .error error ∧
          error ≠ .noUniqueExtremes) := by
  constructor
  · intro diagram
    obtain ⟨h, built⟩ := diagram.accepted
    exact ⟨h, built, (accepted_of_ofCovers built).realizes built⟩
  · intro unbounded
    exact refused_of_not_tested fun tested => unbounded (tested_iff.mp tested)

/-- A name listed twice, a cover of a name by itself and a cover that follows from others do no
harm; two names side by side lack a bound. -/
theorem diagrams_accepted_exactly_redundant :
    let elements := ["top", "left", "bottom", "right", "left"]
    let covers := [("left", "top"), ("right", "top"), ("left", "left"), ("bottom", "left"),
      ("bottom", "right"), ("bottom", "top")]
    BoundedDiagram elements covers ∧
      (∃ h, ofCovers elements covers = .ok h ∧ h.Realizes elements covers) ∧
      ¬ BoundedDiagram ["left", "right"] [] ∧
      ofCovers ["left", "right"] [] = .error (.noUniqueBound "left" "right" .lub) := by
  intro elements covers
  obtain ⟨realized, refused⟩ := diagrams_accepted_exactly elements covers
  obtain ⟨split, _⟩ := diagrams_accepted_exactly ["left", "right"] []
  have apart : ofCovers ["left", "right"] [] = .error (.noUniqueBound "left" "right" .lub) := rfl
  have bounded : BoundedDiagram elements covers := by
    by_cases diagram : BoundedDiagram elements covers
    · exact diagram
    · obtain ⟨error, failed, _⟩ := refused diagram
      have accepted : (ofCovers elements covers).isOk = true := by decide +kernel
      rw [failed] at accepted
      cases accepted
  refine ⟨bounded, realized bounded, ?_, apart⟩
  intro diagram
  obtain ⟨h, built, _⟩ := split diagram
  rw [apart] at built
  cases built

end FlowTyping.Hasse
