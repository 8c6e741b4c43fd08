import FlowTyping.Constraint.Split
import FlowTyping.Proofs.WrittenWords

namespace FlowTyping.Constraint

open Text

variable {cs before front back left right rest more text : List Char} {c : Char} {kind : Kind}

theorem operatorAt?_eq_some :
    operatorAt? cs = some (kind, rest) ↔ cs = kind.operator.toList ++ rest := by
  constructor
  · intro found
    unfold operatorAt? at found
    split at found
    · obtain ⟨rfl, rfl⟩ := Prod.mk.inj (Option.some.inj found)
      rfl
    · obtain ⟨rfl, rfl⟩ := Prod.mk.inj (Option.some.inj found)
      rfl
    · obtain ⟨rfl, rfl⟩ := Prod.mk.inj (Option.some.inj found)
      rfl
    · cases found
  · intro shape
    subst shape
    cases kind <;> rfl

theorem operator_ne_nil (kind : Kind) : kind.operator.toList ≠ [] := by
  cases kind <;> decide

theorem mem_operatorChars (member : c ∈ kind.operator.toList) : c ∈ operatorChars := by
  have spelled : kind.operator.toList.all operatorChars.contains = true := by
    cases kind <;> decide
  simpa using List.all_eq_true.mp spelled c member

theorem isBlank_of_mem_operatorChars (member : c ∈ operatorChars) : isBlank c = false := by
  have solid : operatorChars.all (fun c => !isBlank c) = true := by decide
  simpa using List.all_eq_true.mp solid c member

theorem head_mem_operatorChars (found : operatorAt? (c :: more) = some (kind, rest)) :
    c ∈ operatorChars := by
  have shape := operatorAt?_eq_some.mp found
  cases spelled : kind.operator.toList with
  | nil => exact absurd spelled (operator_ne_nil kind)
  | cons d others =>
    rw [spelled, List.cons_append] at shape
    have member : d ∈ kind.operator.toList := by simp [spelled]
    rw [(List.cons.inj shape).1]
    exact mem_operatorChars member

/-- A blank behind a text completes no operator. -/
theorem operatorAt?_append_blank (free : operatorAt? rest = none) :
    operatorAt? (rest ++ ' ' :: more) = none := by
  apply Option.eq_none_iff_forall_ne_some.mpr
  intro pair found
  obtain ⟨kind, others⟩ := pair
  have shape := operatorAt?_eq_some.mp found
  rcases List.append_eq_append_iff.mp shape with ⟨piece, spelled, tail⟩ | ⟨piece, longer, _⟩
  · cases piece with
    | nil =>
      rw [List.append_nil] at spelled
      have here : operatorAt? rest = some (kind, []) := by
        rw [operatorAt?_eq_some, spelled, List.append_nil]
      rw [free] at here
      cases here
    | cons d pieces =>
      have blank : ' ' = d := (List.cons.inj tail).1
      subst blank
      have member : ' ' ∈ kind.operator.toList := by simp [spelled]
      exact absurd (isBlank_of_mem_operatorChars (mem_operatorChars member)) (by decide)
  · rw [longer, operatorAt?_eq_some.mpr rfl] at free
    cases free

theorem continuation?_blank (blank : isBlank c = true) :
    continuation? (c :: rest) = continuation? rest := by
  simp [continuation?, dropBlanks, blank]

/-- A text is cut behind its front: an operator with a right side continues it there and not
before, and no line ends before. -/
structure CutBehind (front back : List Char) (kind : Kind) (right : List Char) : Prop where
  continues : continuation? back = some (kind, right)
  oneLine : '\n' ∉ front
  first : ∀ rest, rest ≠ [] → rest <:+ front → continuation? (rest ++ back) = none

theorem cutBehind_nil : CutBehind [] back kind right ↔ continuation? back = some (kind, right) := by
  constructor
  · exact CutBehind.continues
  · intro continues
    refine ⟨continues, by simp, ?_⟩
    intro rest nonempty suffix
    exact absurd (List.suffix_nil.mp suffix) nonempty

/-- One character more stands in front of the cut if the text neither continues nor ends its
line there. -/
theorem cutBehind_cons :
    CutBehind (c :: front) back kind right ↔
      continuation? (c :: (front ++ back)) = none ∧ c ≠ '\n' ∧ CutBehind front back kind right := by
  constructor
  · intro cut
    refine ⟨cut.first _ (by simp) List.suffix_rfl, ?_, cut.continues, ?_, ?_⟩
    · intro line
      exact cut.oneLine (by simp [line])
    · intro member
      exact cut.oneLine (List.mem_cons_of_mem c member)
    · intro rest nonempty suffix
      exact cut.first rest nonempty (suffix.trans (List.suffix_cons c front))
  · intro ⟨here, line, cut⟩
    refine ⟨cut.continues, ?_, ?_⟩
    · intro member
      rcases List.mem_cons.mp member with same | later
      · exact line same.symm
      · exact cut.oneLine later
    · intro rest nonempty suffix
      rcases List.suffix_cons_iff.mp suffix with whole | shorter
      · rw [whole]
        exact here
      · exact cut.first rest nonempty shorter

theorem splitAfter_eq_some :
    splitAfter before cs = some (left, kind, right) ↔
      ∃ front back, front ++ back = cs ∧ before.reverse ++ front = left ∧
        CutBehind front back kind right := by
  induction cs generalizing before with
  | nil =>
    constructor
    · intro found
      cases found
    · intro ⟨front, back, shape, _, cut⟩
      have continues := cut.continues
      rw [(List.append_eq_nil_iff.mp shape).2] at continues
      cases continues
  | cons c rest ih =>
    -- The cut is either right here, behind what was read already, or further on.
    have steps : (∃ front back, front ++ back = c :: rest ∧ before.reverse ++ front = left ∧
        CutBehind front back kind right) ↔
        (continuation? (c :: rest) = some (kind, right) ∧ before.reverse = left) ∨
          (continuation? (c :: rest) = none ∧ c ≠ '\n' ∧
            splitAfter (c :: before) rest = some (left, kind, right)) := by
      rw [ih]
      constructor
      · intro ⟨front, back, shape, side, cut⟩
        cases front with
        | nil =>
          rw [List.nil_append] at shape
          rw [cutBehind_nil, shape] at cut
          exact Or.inl ⟨cut, by simpa using side⟩
        | cons d others =>
          rw [List.cons_append] at shape
          obtain ⟨same, tail⟩ := List.cons.inj shape
          subst same tail
          obtain ⟨here, line, later⟩ := cutBehind_cons.mp cut
          exact Or.inr ⟨here, line, others, back, rfl, by simpa using side, later⟩
      · intro either
        rcases either with ⟨here, side⟩ | ⟨here, line, front, back, shape, side, cut⟩
        · exact ⟨[], c :: rest, rfl, by simpa using side, cutBehind_nil.mpr here⟩
        · subst shape
          exact ⟨c :: front, back, rfl, by simpa using side, cutBehind_cons.mpr ⟨here, line, cut⟩⟩
    rw [steps, splitAfter]
    cases here : continuation? (c :: rest) with
    | some found =>
      obtain ⟨kind', right'⟩ := found
      simp only [Option.some.injEq, Prod.mk.injEq, reduceCtorEq, false_and, or_false]
      exact And.comm
    | none => by_cases line : c = '\n' <;> simp [line]

/-- The sides of a constraint: the left one starts at the first character that is no blank. -/
theorem splitChars?_eq_some :
    splitChars? cs = some (left, kind, right) ↔
      ∃ c front back, dropBlanks cs = c :: (front ++ back) ∧ c :: front = left ∧
        CutBehind front back kind right := by
  unfold splitChars?
  cases shape : dropBlanks cs with
  | nil => simp
  | cons c rest =>
    show splitAfter [c] rest = _ ↔ _
    rw [splitAfter_eq_some]
    constructor
    · intro ⟨front, back, whole, side, cut⟩
      exact ⟨c, front, back, by rw [whole], side, cut⟩
    · intro ⟨d, front, back, whole, side, cut⟩
      obtain ⟨same, tail⟩ := List.cons.inj whole
      subst same
      exact ⟨front, back, tail.symm, side, cut⟩

/-- The left side ends with no blank, for the text would be cut in front of it. -/
theorem CutBehind.back_solid (cut : CutBehind front back kind right) :
    ∀ c, front.getLast? = some c → isBlank c = false := by
  intro c last
  obtain ⟨others, shape⟩ := List.getLast?_eq_some_iff.mp last
  apply Bool.eq_false_iff.mpr
  intro blank
  have earlier := cut.first [c] (by simp) ⟨others, shape.symm⟩
  rw [List.singleton_append, continuation?_blank blank, cut.continues] at earlier
  cases earlier

theorem trimmed_of_splitChars? (found : splitChars? cs = some (left, kind, right)) :
    Trimmed left := by
  obtain ⟨c, front, back, whole, side, cut⟩ := splitChars?_eq_some.mp found
  subst side
  have solid := dropBlanks_head whole
  constructor
  · intro d first
    obtain rfl := Option.some.inj first
    exact solid
  · intro d last
    cases front with
    | nil =>
      obtain rfl := Option.some.inj last
      exact solid
    | cons e others =>
      rw [List.getLast?_cons_cons] at last
      exact cut.back_solid d last

/-- The text behind an operator makes the right side that was written. -/
theorem rightSide?_blank (word : IsWord right) : rightSide? (' ' :: right) = some right := by
  have stripped : stripChars (' ' :: right) = right := by
    have dropped : dropBlanks (' ' :: right) = dropBlanks right := by
      simp [dropBlanks, show isBlank ' ' = true by decide]
    rw [stripChars, dropped]
    exact stripChars_eq_self_iff.mpr word.trimmed
  have line : '\n' ∉ right := by
    intro member
    exact absurd (word.solid _ member) (by decide)
  rw [rightSide?, stripped]
  simp [word.nonempty, line]

theorem continuation?_operator (word : IsWord right) :
    continuation? (' ' :: (kind.operator.toList ++ ' ' :: right)) = some (kind, right) := by
  have dropped : dropBlanks (' ' :: (kind.operator.toList ++ ' ' :: right)) =
      kind.operator.toList ++ ' ' :: right := by
    cases kind <;> rfl
  rw [continuation?, dropped, operatorAt?_eq_some.mpr rfl]
  simp only [rightSide?_blank word, Option.map_some]

/-- A text that can stand as the left side of a constraint: not empty, on one line, and with no
operator behind its first character. -/
structure Standalone (text : List Char) : Prop where
  nonempty : text ≠ []
  oneLine : '\n' ∉ text
  uncut : ∀ kind : Kind, ¬ kind.operator.toList <:+: text.tail

theorem standalone_of_isWord (word : IsWord text) : Standalone text := by
  refine ⟨word.nonempty, ?_, ?_⟩
  · intro member
    exact absurd (word.solid _ member) (by decide)
  · intro kind inside
    obtain ⟨c, member⟩ := List.exists_mem_of_ne_nil _ (operator_ne_nil kind)
    exact word.apart c (List.mem_of_mem_tail (inside.subset member)) (mem_operatorChars member)

/-- A text that starts with an operator, ends with a word and stands on one line continues a
constraint. -/
theorem continuation?_ne_none (word : IsWord right) (operator : operatorAt? cs = some (kind, rest))
    (ends : right <:+ rest) (line : '\n' ∉ cs) : continuation? cs ≠ none := by
  have shape := operatorAt?_eq_some.mp operator
  have front : dropBlanks cs = cs := by
    apply dropBlanks_eq_self_iff.mpr
    intro c first
    obtain ⟨more, whole⟩ := List.head?_eq_some_iff.mp first
    rw [whole] at operator
    exact isBlank_of_mem_operatorChars (head_mem_operatorChars operator)
  obtain ⟨c, member⟩ := List.exists_mem_of_ne_nil right word.nonempty
  have kept : c ∈ stripChars rest := mem_stripChars (ends.subset member) (word.solid c member)
  have nonempty : stripChars rest ≠ [] := List.ne_nil_of_mem kept
  have whole : '\n' ∉ stripChars rest := by
    intro there
    rw [shape] at line
    exact line (List.mem_append_right _ (mem_of_mem_stripChars there))
  simp [continuation?, front, operator, rightSide?, nonempty, whole]

theorem newline_not_mem_tail (word : IsWord right) :
    '\n' ∉ ' ' :: (kind.operator.toList ++ ' ' :: right) := by
  intro member
  simp only [List.mem_cons, List.mem_append] at member
  rcases member with blank | operator | blank | there
  · exact absurd blank (by decide)
  · exact absurd (isBlank_of_mem_operatorChars (mem_operatorChars operator)) (by decide)
  · exact absurd blank (by decide)
  · exact absurd (word.solid _ there) (by decide)

section Written

variable (word : IsWord right)
include word

/-- What is written to the left of an operator and a word can stand on its own if it is cut
off as a whole. -/
theorem standalone_of_splitChars? {found : Kind} {other : List Char}
    (cutOff : splitChars? (text ++ ' ' :: (kind.operator.toList ++ ' ' :: right)) =
      some (text, found, other)) : Standalone text := by
  obtain ⟨c, front, back, whole, side, cut⟩ := splitChars?_eq_some.mp cutOff
  subst side
  have solid := dropBlanks_head whole
  rw [List.cons_append, dropBlanks_cons solid] at whole
  have tail := List.append_cancel_left (List.cons.inj whole).2
  subst tail
  refine ⟨by simp, ?_, ?_⟩
  · intro member
    rcases List.mem_cons.mp member with same | later
    · rw [← same] at solid
      exact absurd solid (by decide)
    · exact cut.oneLine later
  · intro inside occurs
    obtain ⟨early, others, shape⟩ := occurs
    have suffix : inside.operator.toList ++ others <:+ front := ⟨early, by simpa using shape⟩
    have nonempty : inside.operator.toList ++ others ≠ [] :=
      List.append_ne_nil_of_left_ne_nil (operator_ne_nil inside) others
    have operator := operatorAt?_eq_some.mpr (List.append_assoc inside.operator.toList others
      (' ' :: (kind.operator.toList ++ ' ' :: right)))
    refine continuation?_ne_none word operator ?_ ?_ (cut.first _ nonempty suffix)
    · exact ⟨others ++ ' ' :: (kind.operator.toList ++ [' ']), by simp⟩
    · intro member
      rcases List.mem_append.mp member with there | late
      · exact cut.oneLine (suffix.subset there)
      · exact newline_not_mem_tail word late

theorem splitChars?_of_standalone (trimmed : Trimmed text) (alone : Standalone text) :
    splitChars? (text ++ ' ' :: (kind.operator.toList ++ ' ' :: right)) =
      some (text, kind, right) := by
  cases text with
  | nil => exact absurd rfl alone.nonempty
  | cons c others =>
    refine splitChars?_eq_some.mpr ⟨c, others, _, dropBlanks_cons (trimmed.front c rfl) _, rfl,
      continuation?_operator word, ?_, ?_⟩
    · intro member
      exact alone.oneLine (List.mem_cons_of_mem c member)
    · intro rest nonempty suffix
      -- The last character of the text is no blank, so what is left of the rest is not empty.
      have last : (c :: others).getLast? = some (rest.getLast nonempty) := by
        obtain ⟨early, shape⟩ := suffix
        rw [← shape, ← List.cons_append, List.getLast?_append,
          List.getLast?_eq_some_getLast nonempty]
        rfl
      have kept := mem_dropBlanks (List.getLast_mem nonempty) (trimmed.back _ last)
      have free : operatorAt? (dropBlanks rest) = none := by
        apply Option.eq_none_iff_forall_ne_some.mpr
        intro pair found
        obtain ⟨inside, more⟩ := pair
        have part := ((dropBlanks_suffix rest).trans suffix).isInfix
        rw [operatorAt?_eq_some.mp found] at part
        have here : inside.operator.toList <:+: inside.operator.toList ++ more := ⟨[], more, rfl⟩
        exact alone.uncut inside (here.trans part)
      rw [continuation?, dropBlanks_append_of_ne_nil (List.ne_nil_of_mem kept),
        operatorAt?_append_blank free]

end Written

theorem split?_eq_some {whole a b : String} :
    split? whole = some (a, kind, b) ↔
      splitChars? whole.toList = some (a.toList, kind, b.toList) := by
  unfold split?
  cases splitChars? whole.toList with
  | none => simp
  | some parts =>
    obtain ⟨left, found, right⟩ := parts
    have spelled : ∀ (cs : List Char) (word : String), String.ofList cs = word ↔ cs = word.toList := by
      intro cs word
      rw [← String.toList_inj, String.toList_ofList]
    simp [spelled]

/-- Two words with an operator between them are cut into the words and the operator. -/
theorem split?_words {a b : String} (first : IsWord a.toList) (second : IsWord b.toList) :
    split? (a ++ " " ++ kind.operator ++ " " ++ b) = some (a, kind, b) := by
  have shape : (a ++ " " ++ kind.operator ++ " " ++ b).toList =
      a.toList ++ ' ' :: (kind.operator.toList ++ ' ' :: b.toList) := by
    simp
  rw [split?_eq_some, shape]
  exact splitChars?_of_standalone second first.trimmed (standalone_of_isWord first)

end FlowTyping.Constraint
