import FlowTyping.Constraint.Reader
import FlowTyping.Proofs.BuiltDomain
import FlowTyping.Proofs.WrittenWords

namespace FlowTyping

open Text

namespace Powerset

variable {p : Powerset} {names : List String} {s : PrincipalSet}

theorem validName_of_ofPrincipals (accepted : ofPrincipals names = .ok p) :
    ∀ name ∈ p.principals, validName name = true := by
  simp only [ofPrincipals] at accepted
  split at accepted
  · cases accepted
  · split at accepted
    · cases accepted
    · rename_i none
      have same := Except.ok.inj accepted
      subst same
      intro name member
      simpa using List.find?_eq_none.mp none name member

theorem not_mem_of_reserved {name : String} {c : Char} (valid : validName name = true)
    (listed : c ∈ reserved) : c ∉ name.toList := by
  intro member
  simp only [validName, Bool.and_eq_true, Bool.not_eq_true', List.any_eq_false] at valid
  exact valid.2 c member (by simpa using listed)

/-- The principals of a level in the order of their declaration. -/
def placed (p : Powerset) (names : List String) : List String :=
  names.mergeSort (fun a b => decide (p.position a ≤ p.position b))

theorem toList_formatNames :
    (p.formatNames names).toList =
      '\x7b' :: ([','].intercalate ((p.placed names).map String.toList) ++ ['\x7d']) := by
  simp [formatNames, placed, String.toList_intercalate]

theorem mem_placed {name : String} : name ∈ p.placed names ↔ name ∈ names := List.mem_mergeSort

theorem braced?_body (body : List Char) : braced? ('\x7b' :: (body ++ ['\x7d'])) = some body := by
  simp [braced?]

theorem trimmed_formatNames : Trimmed (p.formatNames names).toList := by
  rw [toList_formatNames, ← List.cons_append]
  constructor
  · intro c first
    obtain rfl := Option.some.inj first
    decide
  · intro c last
    rw [List.getLast?_concat] at last
    obtain rfl := Option.some.inj last
    decide

theorem ne_nil_of_validName {name : String} (valid : validName name = true) :
    name.toList ≠ [] := by
  intro empty
  simp [validName, empty] at valid

section Known

variable (known : ∀ name ∈ s, name ∈ p.principals)
include known

theorem isWord_formatNames (words : ∀ name ∈ p.principals, IsWord name.toList) :
    IsWord (p.formatNames s.toList).toList := by
  have marks : ['\x7b', ',', '\x7d'].all inWord = true := by decide
  have mark : ∀ c ∈ ['\x7b', ',', '\x7d'], inWord c = true := List.all_eq_true.mp marks
  refine isWord_iff.mpr ⟨by simp [toList_formatNames], List.all_eq_true.mpr ?_⟩
  intro c member
  rw [toList_formatNames, List.mem_cons, List.mem_append, List.mem_singleton] at member
  rcases member with opening | body | closing
  · exact mark c (by simp [opening])
  · rcases mem_intercalate body with comma | ⟨piece, listed, there⟩
    · exact mark c (by simp [comma])
    · obtain ⟨name, placed, same⟩ := List.mem_map.mp listed
      subst same
      have word := words name (known name (mem_placed.mp placed))
      exact List.all_eq_true.mp (isWord_iff.mp word).2 c there
  · exact mark c (by simp [closing])

theorem level_placed : p.level (p.placed s.toList) = .ok (.principals s) := by
  have all : (p.placed s.toList).find? (fun name => !p.principals.contains name) = none := by
    apply List.find?_eq_none.mpr
    intro name member
    simpa using known name (mem_placed.mp member)
  have same : (SortedSet.ofList (p.placed s.toList) : PrincipalSet) = s := by
    apply SortedSet.ext_mem
    intro name
    rw [SortedSet.mem_ofList, mem_placed]
    rfl
  rw [level, all]
  show Except.ok (Level.principals (.ofList _)) = _
  rw [same]

/-- A set of principals is read as it was written, unless blanks stand at the ends of a name. -/
theorem parse_formatNames (valid : ∀ name ∈ p.principals, validName name = true)
    (trimmed : ∀ name ∈ s, Trimmed name.toList) :
    p.parse (p.formatNames s.toList) = .ok (.principals s) := by
  have piece : ∀ piece ∈ (p.placed s.toList).map String.toList,
      ',' ∉ piece ∧ piece ≠ [] ∧ Trimmed piece := by
    intro piece listed
    obtain ⟨name, member, same⟩ := List.mem_map.mp listed
    subst same
    have accepted := valid name (known name (mem_placed.mp member))
    exact ⟨not_mem_of_reserved accepted (by decide), ne_nil_of_validName accepted,
      trimmed name (mem_placed.mp member)⟩
  have body : Trimmed ([','].intercalate ((p.placed s.toList).map String.toList)) :=
    trimmed_intercalate (fun part listed => (piece part listed).2.1)
      fun part listed => (piece part listed).2.2
  rw [parse, stripChars_eq_self_iff.mpr trimmed_formatNames, toList_formatNames, braced?_body]
  simp only [stripChars_eq_self_iff.mpr body]
  cases names : p.placed s.toList with
  | nil =>
    have empty : s = .empty := by
      apply SortedSet.ext_mem
      intro name
      have nowhere : name ∉ s := by
        intro member
        have listed : name ∈ p.placed s.toList := mem_placed.mpr member
        simp [names] at listed
      simp [nowhere]
    rw [empty]
    rfl
  | cons first others =>
    rw [← names]
    have pieces : (p.placed s.toList).map String.toList ≠ [] := by simp [names]
    have nonempty : [','].intercalate ((p.placed s.toList).map String.toList) ≠ [] := by
      have full := (piece first.toList (by simp [names])).2.1
      rw [names, List.map_cons]
      exact intercalate_ne_nil full
    have cut := splitAtChar_intercalate pieces fun part listed => (piece part listed).1
    have unstripped : ((p.placed s.toList).map String.toList).map stripChars =
        (p.placed s.toList).map String.toList := by
      refine (List.map_congr_left fun part listed => ?_).trans (List.map_id _)
      exact stripChars_eq_self_iff.mpr (piece part listed).2.2
    have full : ((p.placed s.toList).map String.toList).any List.isEmpty = false := by
      apply List.any_eq_false.mpr
      intro part listed
      simpa using (piece part listed).2.1
    simp only [List.isEmpty_iff, nonempty, if_false, cut, unstripped, full, Bool.false_eq_true,
      List.map_map]
    have texts : (p.placed s.toList).map (String.ofList ∘ String.toList) = p.placed s.toList := by
      refine (List.map_congr_left fun name _ => ?_).trans (List.map_id _)
      exact String.ofList_toList
    rw [texts]
    exact level_placed known

end Known

end Powerset

/-- A text with no other meaning as a side of a constraint: it is neither the returned value
nor a parameter nor the dynamic marker. -/
structure Unreserved (word : String) : Prop where
  noReturn : word ≠ "@return"
  noParam : paramReference? word.toList = none
  noMarker : word ≠ "?"

namespace Domain

/-- The names of a domain can be told from operators, references and the marker when they
stand in a constraint. -/
def Legible : Domain → Prop
  | .twoPoint => True
  | .powerset sets => ∀ name ∈ sets.principals, IsWord name.toList
  | .hasse diagram => ∀ name ∈ diagram.names,
    IsWord name.toList ∧ name.toList.head? ≠ some '@' ∧ name ≠ "?"
  | .table _ => False

/-- The text of a level is a word that no other symbol is written as, and reads as the
level. -/
structure Spells (domain : Domain) (l : Level) : Prop where
  word : IsWord (domain.format l).toList
  noReference : (domain.format l).toList.head? ≠ some '@'
  noMarker : domain.format l ≠ "?"
  reads : domain.parse (domain.format l) = .ok l

theorem Spells.unreserved {domain : Domain} {l : Level} (spells : domain.Spells l) :
    Unreserved (domain.format l) := by
  refine ⟨?_, ?_, spells.noMarker⟩
  · intro same
    exact spells.noReference (by rw [same]; rfl)
  · unfold paramReference?
    split
    · rename_i reference
      exact absurd (by rw [reference]; rfl) spells.noReference
    · rfl

theorem Built.spells {domain : Domain} {l : Level} (built : domain.Built)
    (legible : domain.Legible) (known : l ∈ domain.lattice.elements) : domain.Spells l := by
  cases built with
  | twoPoint =>
    have points : l = .low ∨ l = .high := by
      simpa [lattice, TwoPoint.lattice] using known
    rcases points with low | high
    · subst low
      refine ⟨by decide +kernel, by decide +kernel, by decide +kernel, ?_⟩
      have upper : Text.upper (Text.strip "LOW") = "LOW" := by decide +kernel
      show TwoPoint.parse "LOW" = _
      simp [TwoPoint.parse, upper]
    · subst high
      refine ⟨by decide +kernel, by decide +kernel, by decide +kernel, ?_⟩
      have upper : Text.upper (Text.strip "HIGH") = "HIGH" := by decide +kernel
      show TwoPoint.parse "HIGH" = _
      simp [TwoPoint.parse, upper]
  | @powerset names sets accepted =>
    obtain ⟨s, inside, same⟩ := Powerset.mem_elements.mp known
    subst same
    have shape : (sets.formatNames s.toList).toList = _ := Powerset.toList_formatNames
    have trimmed : ∀ name ∈ s, Trimmed name.toList := fun name member =>
      (legible name (inside name member)).trimmed
    refine ⟨Powerset.isWord_formatNames inside legible, ?_, ?_,
      Powerset.parse_formatNames inside (Powerset.validName_of_ofPrincipals accepted) trimmed⟩
    · show (sets.formatNames s.toList).toList.head? ≠ some '@'
      rw [shape]
      simp
    · show sets.formatNames s.toList ≠ "?"
      intro marker
      rw [marker] at shape
      cases (List.cons.inj shape).1
  | hasse accepted =>
    obtain ⟨name, listed, same⟩ := (Hasse.accepted_of_ofCovers accepted).mem_elements.mp known
    subst same
    obtain ⟨word, noReference, noMarker⟩ := legible name listed
    refine ⟨word, noReference, noMarker, ?_⟩
    show Hasse.parse _ name = _
    rw [Hasse.parse, word.strip]
    simp [Hasse.knows, listed]

end Domain

end FlowTyping
