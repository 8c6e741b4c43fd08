import FlowTyping.Proofs.ConstraintCut
import FlowTyping.Proofs.WrittenLevels
import FlowTyping.Signature.Reader
import Mathlib.Data.List.Basic

/-!
Which levels can be written down. Domains accept names that their readers do not: what is read
is stripped of the blanks at its ends, so a level is read back exactly when none of its names
starts or ends with a blank; and in a constraint the text of a level must also stand on one
line, hold no operator behind its first character, and be none of the texts that mean something
else.
-/

namespace FlowTyping

open Text

/-- The names that the text of a level is made of. -/
def Level.names : Level → List String
  | .principals members => members.toList
  | .name text => [text]
  | _ => []

namespace Powerset

variable {p : Powerset} {names : List String} {s : PrincipalSet}

theorem braced?_eq_some {cs body : List Char} :
    braced? cs = some body ↔ cs = '\x7b' :: (body ++ ['\x7d']) := by
  constructor
  · intro found
    unfold braced? at found
    split at found
    · rename_i rest
      split at found
      · rename_i inner closing
        obtain rfl := Option.some.inj found
        have shape := congrArg List.reverse closing
        rw [List.reverse_reverse, List.reverse_cons] at shape
        rw [shape]
      · cases found
    · cases found
  · intro shape
    rw [shape, braced?_body]

theorem eq_levelOf_of_level {l : Level} (accepted : p.level names = .ok l) : l = levelOf names := by
  unfold level at accepted
  split at accepted
  · cases accepted
  · exact (Except.ok.inj accepted).symm

theorem trimmed_of_parse {text : String} (read : p.parse text = .ok (.principals s)) :
    ∀ name ∈ s, Trimmed name.toList := by
  intro name member
  unfold parse at read
  split at read
  · cases read
  · simp only at read
    split at read
    · have empty : .empty = s := Level.principals.inj (Except.ok.inj read)
      rw [← empty] at member
      exact absurd member (SortedSet.not_mem_empty name)
    · split at read
      · cases read
      · have same := Level.principals.inj (eq_levelOf_of_level read)
        rw [same, SortedSet.mem_ofList, List.map_map] at member
        obtain ⟨piece, _, spelled⟩ := List.mem_map.mp member
        rw [← spelled, Function.comp_apply, String.toList_ofList]
        exact trimmed_stripChars piece

/-- A set is read back exactly when no name in it has a blank at its ends. -/
theorem parse_formatNames_iff (known : ∀ name ∈ s, name ∈ p.principals)
    (valid : ∀ name ∈ p.principals, validName name = true) :
    p.parse (p.formatNames s.toList) = .ok (.principals s) ↔ ∀ name ∈ s, Trimmed name.toList :=
  ⟨trimmed_of_parse, parse_formatNames known valid⟩

theorem dropBlanks_formatNames {tail : List Char} :
    dropBlanks ((p.formatNames names).toList ++ tail) = (p.formatNames names).toList ++ tail := by
  rw [toList_formatNames, List.cons_append, dropBlanks_cons (by decide)]

/-- The closing brace of a set is the only one in its text, so what is read from the front of a
longer text without braces is the whole set. -/
theorem eq_formatNames_of_parse {left : String} {back tail : List Char} {l : Level}
    (known : ∀ name ∈ s, name ∈ p.principals)
    (valid : ∀ name ∈ p.principals, validName name = true) (free : '\x7d' ∉ tail)
    (whole : left.toList ++ back = (p.formatNames s.toList).toList ++ tail)
    (trimmed : Trimmed left.toList) (read : p.parse left = .ok l) :
    left = p.formatNames s.toList := by
  have body : '\x7d' ∉ '\x7b' :: [','].intercalate ((p.placed s.toList).map String.toList) := by
    intro member
    rcases List.mem_cons.mp member with opening | inside
    · exact absurd opening (by decide)
    · rcases mem_intercalate inside with comma | ⟨piece, listed, there⟩
      · exact absurd comma (by decide)
      · obtain ⟨name, placed, same⟩ := List.mem_map.mp listed
        subst same
        have accepted := valid name (known name (mem_placed.mp placed))
        exact not_mem_of_reserved accepted (by decide) there
  obtain ⟨inner, shape⟩ : ∃ inner, left.toList = '\x7b' :: (inner ++ ['\x7d']) := by
    unfold parse at read
    rw [stripChars_eq_self_iff.mpr trimmed] at read
    split at read
    · cases read
    · rename_i inner braces
      exact ⟨inner, braced?_eq_some.mp braces⟩
  apply String.toList_inj.mp
  rw [toList_formatNames] at whole ⊢
  have split : ('\x7b' :: [','].intercalate ((p.placed s.toList).map String.toList)) ++
      '\x7d' :: tail = ('\x7b' :: inner) ++ '\x7d' :: back := by
    rw [shape] at whole
    simpa using whole.symm
  have parts := (List.append_cons_inj_of_notMem body free).mp split
  rw [shape, (List.cons.inj parts.1).2]

end Powerset

namespace Hasse

variable {h : Hasse} {name : String}

theorem strip_of_parse {text : String} (read : h.parse text = .ok (.name name)) :
    strip text = name := by
  unfold parse at read
  simp only at read
  split at read
  · exact Level.name.inj (Except.ok.inj read)
  · cases read

theorem parse_name_iff (known : name ∈ h.names) :
    h.parse name = .ok (.name name) ↔ Trimmed name.toList := by
  rw [← strip_eq_self_iff]
  constructor
  · exact strip_of_parse
  · intro same
    simp [parse, same, knows, known]

end Hasse

theorem Symbol.read_level_iff {domain : Domain} {text : String} {l : Level} :
    Symbol.read domain text = .ok (.literal (.level l)) ↔
      Unreserved (strip text) ∧ domain.parse (strip text) = .ok l := by
  unfold Symbol.read
  simp only
  constructor
  · intro read
    split at read
    · cases read
    · rename_i noReturn
      split at read
      · cases read
      · cases read
      · rename_i noParam
        split at read
        · cases read
        · rename_i noMarker
          split at read
          · rename_i level parsed
            have same : level = l := by simpa using read
            exact ⟨⟨noReturn, noParam, noMarker⟩, same ▸ parsed⟩
          · cases read
  · intro ⟨unreserved, parsed⟩
    rw [if_neg unreserved.noReturn, unreserved.noParam]
    simp only [if_neg unreserved.noMarker, parsed]

theorem SymbolConstraint.read_eq_ok {domain : Domain} {text : String} {c : SymbolConstraint} :
    SymbolConstraint.read domain text = .ok c ↔
      ∃ left kind right lhs rhs, Constraint.split? text = some (left, kind, right) ∧
        Symbol.read domain left = .ok lhs ∧ Symbol.read domain right = .ok rhs ∧
        Constraint.make lhs kind rhs = c := by
  unfold SymbolConstraint.read
  cases cut : Constraint.split? text with
  | none => simp
  | some parts =>
    obtain ⟨left, kind, right⟩ := parts
    cases first : Symbol.read domain left with
    | error e => simp [first, bind, Except.bind]
    | ok lhs =>
      cases second : Symbol.read domain right with
      | error e => simp [first, second, bind, Except.bind]
      | ok rhs => simp [first, second, bind, Except.bind, pure, Except.pure]

namespace Domain.Built

variable {domain : Domain} {l : Level}

theorem parse_format_iff (built : domain.Built) (known : l ∈ domain.lattice.elements) :
    domain.parse (domain.format l) = .ok l ↔ ∀ name ∈ l.names, Trimmed name.toList := by
  cases built with
  | twoPoint =>
    have nameless : ∀ point ∈ TwoPoint.lattice.elements, point.names = [] := by decide
    have none : ∀ name ∈ l.names, Trimmed name.toList := by simp [nameless l known]
    exact ⟨fun _ => none, fun _ => (Built.twoPoint.spells trivial known).reads⟩
  | powerset accepted =>
    obtain ⟨s, inside, same⟩ := Powerset.mem_elements.mp known
    subst same
    exact Powerset.parse_formatNames_iff inside (Powerset.validName_of_ofPrincipals accepted)
  | hasse accepted =>
    obtain ⟨name, listed, same⟩ := (Hasse.accepted_of_ofCovers accepted).mem_elements.mp known
    subst same
    have single : (∀ n ∈ (Level.name name).names, Trimmed n.toList) ↔ Trimmed name.toList := by
      simp [Level.names]
    rw [single]
    exact Hasse.parse_name_iff listed

theorem trimmed_format (built : domain.Built) (known : l ∈ domain.lattice.elements)
    (trimmed : ∀ name ∈ l.names, Trimmed name.toList) : Trimmed (domain.format l).toList := by
  cases built with
  | twoPoint => exact (Built.twoPoint.spells trivial known).word.trimmed
  | powerset _ =>
    obtain ⟨s, _, same⟩ := Powerset.mem_elements.mp known
    subst same
    exact Powerset.trimmed_formatNames
  | hasse accepted =>
    obtain ⟨name, _, same⟩ := (Hasse.accepted_of_ofCovers accepted).mem_elements.mp known
    subst same
    exact trimmed name (by simp [Level.names])

end Domain.Built

/-- A level that can be written in a constraint: no blank stands at the ends of its names, and
its text can stand on its own and means nothing else. -/
structure Domain.Writable (domain : Domain) (l : Level) : Prop where
  trimmed : ∀ name ∈ l.names, Trimmed name.toList
  standalone : Constraint.Standalone (domain.format l).toList
  unreserved : Unreserved (domain.format l)

/-- The flow of a level into the returned value, as it is written. -/
def Domain.returnFlow (domain : Domain) (l : Level) : String := domain.format l ++ " <= @return"

theorem isWord_return : IsWord "@return".toList := by decide

theorem Domain.toList_returnFlow (domain : Domain) (l : Level) :
    (domain.returnFlow l).toList = (domain.format l).toList ++
      ' ' :: (Kind.flow.operator.toList ++ ' ' :: "@return".toList) := by
  simp [returnFlow, Kind.operator]

namespace Domain.Built

variable {domain : Domain} {l : Level}

/-- If what is cut off on the left reads as the level, then it is the text of the level. -/
theorem eq_format_of_cut (built : domain.Built) (known : l ∈ domain.lattice.elements)
    {left right : String} {kind : Kind}
    (cut : Constraint.split? (domain.returnFlow l) = some (left, kind, right))
    (read : domain.parse left = .ok l) : left = domain.format l := by
  have chars := Constraint.split?_eq_some.mp cut
  have trimmed := Constraint.trimmed_of_splitChars? chars
  cases built with
  | twoPoint =>
    have word := (Built.twoPoint.spells trivial known).word
    rw [toList_returnFlow, Constraint.splitChars?_of_standalone isWord_return word.trimmed
      (Constraint.standalone_of_isWord word)] at chars
    exact String.toList_inj.mp (Prod.mk.inj (Option.some.inj chars)).1.symm
  | @powerset names sets accepted =>
    obtain ⟨s, inside, same⟩ := Powerset.mem_elements.mp known
    subst same
    obtain ⟨c, front, back, whole, side, _⟩ := Constraint.splitChars?_eq_some.mp chars
    rw [toList_returnFlow] at whole
    have text := (Powerset.dropBlanks_formatNames (p := sets)).symm.trans whole
    have sides : c :: (front ++ back) = left.toList ++ back := by rw [← side, List.cons_append]
    exact Powerset.eq_formatNames_of_parse inside (Powerset.validName_of_ofPrincipals accepted)
      (by decide) (sides.symm.trans text.symm) trimmed read
  | hasse accepted =>
    obtain ⟨name, _, same⟩ := (Hasse.accepted_of_ofCovers accepted).mem_elements.mp known
    subst same
    have stripped : strip left = name := Hasse.strip_of_parse read
    rw [strip_eq_self_iff.mpr trimmed] at stripped
    exact stripped

/-- The flow of a level into the returned value is read as it was written exactly when the
level can be written in a constraint. -/
theorem read_returnFlow_iff (built : domain.Built) (known : l ∈ domain.lattice.elements) :
    SymbolConstraint.read domain (domain.returnFlow l) =
        .ok (.make (.literal (.level l)) .flow .ret) ↔ domain.Writable l := by
  rw [SymbolConstraint.read_eq_ok]
  constructor
  · intro ⟨left, kind, right, lhs, rhs, cut, readLeft, _, made⟩
    have same : lhs = .literal (.level l) := by
      obtain ⟨flow, straight | exchanged⟩ := Constraint.eq_or_swapped_of_make_eq made
      · exact straight.1
      · rw [flow] at exchanged
        cases exchanged.1
    subst same
    have chars := Constraint.split?_eq_some.mp cut
    have stripped := strip_eq_self_iff.mpr (Constraint.trimmed_of_splitChars? chars)
    obtain ⟨unreserved, parsed⟩ := Symbol.read_level_iff.mp readLeft
    rw [stripped] at unreserved parsed
    have whole := built.eq_format_of_cut known cut parsed
    rw [whole] at unreserved parsed chars
    rw [toList_returnFlow] at chars
    exact ⟨(built.parse_format_iff known).mp parsed,
      Constraint.standalone_of_splitChars? isWord_return chars, unreserved⟩
  · intro ⟨trimmed, alone, unreserved⟩
    have ends := built.trimmed_format known trimmed
    have parsed := (built.parse_format_iff known).mpr trimmed
    refine ⟨domain.format l, .flow, "@return", .literal (.level l), .ret, ?_, ?_, ?_, rfl⟩
    · rw [Constraint.split?_eq_some, toList_returnFlow]
      exact Constraint.splitChars?_of_standalone isWord_return ends alone
    · rw [Symbol.read_level_iff, strip_eq_self_iff.mpr ends]
      exact ⟨unreserved, parsed⟩
    · rw [Symbol.read, isWord_return.strip]
      rfl

end Domain.Built

/-- Which levels of a domain can be written down: by themselves those whose names have no blank
at their ends, and in a constraint those of them whose text can stand on its own and means
nothing else. In a legible domain all levels can. -/
theorem levels_writable_exactly {domain : Domain} {l : Level} (built : domain.Built)
    (known : l ∈ domain.lattice.elements) :
    (domain.parse (domain.format l) = .ok l ↔ ∀ name ∈ l.names, Trimmed name.toList) ∧
      (SymbolConstraint.read domain (domain.returnFlow l) =
          .ok (.make (.literal (.level l)) .flow .ret) ↔ domain.Writable l) ∧
      (domain.Legible → domain.Writable l) := by
  refine ⟨built.parse_format_iff known, built.read_returnFlow_iff known, ?_⟩
  intro legible
  have spells := built.spells legible known
  exact ⟨(built.parse_format_iff known).mp spells.reads,
    Constraint.standalone_of_isWord spells.word, spells.unreserved⟩

/-- A name on two lines can be read by itself but not in a constraint. -/
theorem levels_writable_exactly_two_lines :
    let domain := Domain.powerset ⟨["a\nb"]⟩
    let l := Powerset.levelOf ["a\nb"]
    domain.Built ∧ l ∈ domain.lattice.elements ∧ domain.parse (domain.format l) = .ok l ∧
      SymbolConstraint.read domain (domain.returnFlow l) ≠
        .ok (.make (.literal (.level l)) .flow .ret) := by
  intro domain l
  have built : domain.Built := .powerset (rfl : Powerset.ofPrincipals ["a\nb"] = .ok _)
  have known : l ∈ domain.lattice.elements := by decide +kernel
  have trimmed : ∀ name ∈ l.names, strip name = name := by decide +kernel
  obtain ⟨alone, inside, _⟩ := levels_writable_exactly built known
  refine ⟨built, known, alone.mpr fun name member => strip_eq_self_iff.mp (trimmed name member), ?_⟩
  intro read
  have line : '\n' ∉ (domain.format l).toList := (inside.mp read).standalone.oneLine
  exact line (by decide +kernel)

/-- Domains are built over names that their readers do not take for the names: a blank at the
end of a principal is lost, and the name of the dynamic marker is the marker. -/
theorem accepted_names_misread :
    (∃ sets, Powerset.ofPrincipals ["a\n"] = .ok sets ∧
      Powerset.levelOf ["a\n"] ∈ sets.lattice.elements ∧
      (Domain.powerset sets).parse ((Domain.powerset sets).format (Powerset.levelOf ["a\n"])) =
        .error (.unknownPrincipal "a") ∧
      SymbolConstraint.read (.powerset sets)
          ((Domain.powerset sets).returnFlow (Powerset.levelOf ["a\n"])) =
        .error ⟨.malformedConstraint, "\x7ba\n\x7d <= @return"⟩) ∧
    ∃ diagram, Hasse.ofCovers ["?"] [] = .ok diagram ∧
      .name "?" ∈ diagram.lattice.elements ∧
      SymbolConstraint.read (.hasse diagram) ((Domain.hasse diagram).returnFlow (.name "?")) =
        .ok (.make (.literal .dyn) .flow .ret) := by
  refine ⟨⟨⟨["a\n"]⟩, rfl, ?_, ?_, ?_⟩, ⟨⟨["?"], [("?", ["?"])], "?", "?"⟩, rfl, ?_, ?_⟩⟩
  all_goals decide +kernel

end FlowTyping
