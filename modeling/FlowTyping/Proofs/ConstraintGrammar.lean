import FlowTyping.Constraint.Reader
import FlowTyping.Proofs.ConstraintCut
import FlowTyping.Signature.Reader

/-!
The grammar of constraints. A text can often be read in several ways as two sides with an
operator between them: operators overlap, and a side may hold one. The text is split at the
reading with the shortest left side and, for that, the shortest right side, and it is refused
exactly when it has no reading at all.
-/

namespace FlowTyping.Constraint

open Text

variable {cs text front back left right other padding after rest : List Char} {c : Char}
variable {kind found : Kind}

/-- A run of blanks, which may be empty. -/
def Blanks (cs : List Char) : Prop := ∀ c ∈ cs, isBlank c = true

/-- What can be a side of a constraint: it starts with a character that is no blank, and it
stands on one line. -/
structure Side (cs : List Char) : Prop where
  starts : ∃ c rest, cs = c :: rest ∧ isBlank c = false
  oneLine : '\n' ∉ cs

/-- A way to read a text as a constraint: two sides with an operator between them, and blanks
around all three. -/
structure Reading (text left : List Char) (kind : Kind) (right : List Char) : Prop where
  leftSide : Side left
  rightSide : Side right
  spelled : ∃ before behind after rest, Blanks before ∧ Blanks behind ∧ Blanks after ∧
    Blanks rest ∧
    text = before ++ left ++ behind ++ kind.operator.toList ++ after ++ right ++ rest

/-- What follows the left side in a reading. -/
structure Continues (text : List Char) (kind : Kind) (right : List Char) : Prop where
  side : Side right
  spelled : ∃ behind after rest, Blanks behind ∧ Blanks after ∧ Blanks rest ∧
    text = behind ++ (kind.operator.toList ++ (after ++ (right ++ rest)))

theorem dropBlanks_append (blanks : Blanks padding) (cs : List Char) :
    dropBlanks (padding ++ cs) = dropBlanks cs :=
  List.dropWhile_append_of_pos blanks

theorem dropTrailingBlanks_append (blanks : Blanks padding) (cs : List Char) :
    dropTrailingBlanks (cs ++ padding) = dropTrailingBlanks cs := by
  have backwards : Blanks padding.reverse := fun c member => blanks c (List.mem_reverse.mp member)
  rw [dropTrailingBlanks, List.reverse_append, dropBlanks_append backwards, dropTrailingBlanks]

theorem blanks_dropped (cs : List Char) : ∃ before, Blanks before ∧ cs = before ++ dropBlanks cs :=
  ⟨cs.takeWhile isBlank, List.all_eq_true.mp List.all_takeWhile,
    List.takeWhile_append_dropWhile.symm⟩

theorem trailing_blanks_dropped (cs : List Char) :
    ∃ rest, Blanks rest ∧ cs = dropTrailingBlanks cs ++ rest := by
  obtain ⟨before, blanks, shape⟩ := blanks_dropped cs.reverse
  refine ⟨before.reverse, fun c member => blanks c (List.mem_reverse.mp member), ?_⟩
  rw [dropTrailingBlanks, ← List.reverse_append, ← shape, List.reverse_reverse]

theorem blanks_stripped (cs : List Char) :
    ∃ before rest, Blanks before ∧ Blanks rest ∧ cs = before ++ (stripChars cs ++ rest) := by
  obtain ⟨before, blanks, whole⟩ := blanks_dropped cs
  obtain ⟨rest, blanks', kept⟩ := trailing_blanks_dropped (dropBlanks cs)
  refine ⟨before, rest, blanks, blanks', ?_⟩
  rw [stripChars, ← kept, ← whole]

theorem Side.dropBlanks_eq (side : Side cs) (more : List Char) :
    dropBlanks (cs ++ more) = cs ++ more := by
  obtain ⟨c, rest, rfl, solid⟩ := side.starts
  exact dropBlanks_cons solid _

theorem Side.trimmed (side : Side cs) : Side (dropTrailingBlanks cs) := by
  obtain ⟨c, rest, shape, solid⟩ := side.starts
  have front := dropTrailingBlanks_isPrefix cs
  have kept : c ∈ dropTrailingBlanks cs := by
    have member : c ∈ cs.reverse := by simp [shape]
    exact List.mem_reverse.mpr (mem_dropBlanks member solid)
  refine ⟨?_, fun line => side.oneLine (front.subset line)⟩
  obtain ⟨more, whole⟩ := front
  cases trimmed : dropTrailingBlanks cs with
  | nil => simp [trimmed] at kept
  | cons d others =>
    rw [trimmed, shape, List.cons_append] at whole
    exact ⟨d, others, rfl, (List.cons.inj whole).1 ▸ solid⟩

theorem rightSide?_of_side (side : Side right) (blanks : Blanks after) (blanks' : Blanks rest) :
    rightSide? (after ++ (right ++ rest)) = some (dropTrailingBlanks right) := by
  have body : stripChars (after ++ (right ++ rest)) = dropTrailingBlanks right := by
    rw [stripChars, dropBlanks_append blanks, side.dropBlanks_eq,
      dropTrailingBlanks_append blanks']
  obtain ⟨c, others, shape, _⟩ := side.trimmed.starts
  have line := side.trimmed.oneLine
  rw [rightSide?, body]
  simp [shape ▸ line, shape]

/-- Behind an operator a right side is what is left without the blanks around it. -/
theorem side_of_rightSide? (made : rightSide? cs = some right) :
    Side right ∧ Trimmed right ∧
      ∃ after rest, Blanks after ∧ Blanks rest ∧ cs = after ++ (right ++ rest) := by
  unfold rightSide? at made
  dsimp only at made
  split at made
  · cases made
  · rename_i usable
    obtain rfl := Option.some.inj made
    simp only [Bool.or_eq_true, List.isEmpty_iff, List.contains_iff_mem, not_or] at usable
    have trimmed := trimmed_stripChars cs
    refine ⟨⟨?_, usable.2⟩, trimmed, blanks_stripped cs⟩
    cases shape : stripChars cs with
    | nil => exact absurd shape usable.1
    | cons c others => exact ⟨c, others, rfl, trimmed.front c (by simp [shape])⟩

/-- The operator that a text continues with is the one it is read with, and the right side
loses the blanks at its end. -/
theorem Continues.continuation? (continues : Continues cs kind right) :
    Constraint.continuation? cs = some (kind, dropTrailingBlanks right) := by
  obtain ⟨behind, after, rest, blanks, blanks', blanks'', shape⟩ := continues.spelled
  have solid : ∀ more, dropBlanks (kind.operator.toList ++ more) =
      kind.operator.toList ++ more := by
    intro more
    cases kind <;> rfl
  rw [Constraint.continuation?, shape, dropBlanks_append blanks, solid,
    operatorAt?_eq_some.mpr rfl]
  simp only [rightSide?_of_side continues.side blanks' blanks'', Option.map_some]

theorem continues_of_continuation? (found : Constraint.continuation? cs = some (kind, right)) :
    Continues cs kind right ∧ Trimmed right := by
  obtain ⟨behind, blanks, whole⟩ := blanks_dropped cs
  unfold Constraint.continuation? at found
  split at found
  · rename_i kind' others operator
    obtain ⟨right', made, same⟩ := Option.map_eq_some_iff.mp found
    obtain ⟨rfl, rfl⟩ := Prod.mk.inj same
    obtain ⟨side, trimmed, after, rest, blanks', blanks'', shape⟩ := side_of_rightSide? made
    refine ⟨⟨side, behind, after, rest, blanks, blanks', blanks'', ?_⟩, trimmed⟩
    rw [← shape, ← operatorAt?_eq_some.mp operator, ← whole]
  · cases found

theorem dropBlanks_of_reading (blanks : Blanks padding) (solid : isBlank c = false)
    (cs : List Char) : dropBlanks (padding ++ c :: cs) = c :: cs := by
  rw [dropBlanks_append blanks, dropBlanks_cons solid]

/-- A reading cuts what is left of a text without the blanks at its front. -/
theorem reading_iff :
    Reading text left kind right ↔ ∃ c front back, dropBlanks text = c :: (front ++ back) ∧
      left = c :: front ∧ '\n' ∉ front ∧ Continues back kind right := by
  constructor
  · intro reading
    obtain ⟨before, behind, after, rest, blanks, blanks', blanks'', blanks''', shape⟩ :=
      reading.spelled
    obtain ⟨c, front, side, solid⟩ := reading.leftSide.starts
    refine ⟨c, front, behind ++ (kind.operator.toList ++ (after ++ (right ++ rest))), ?_, side, ?_,
      reading.rightSide, behind, after, rest, blanks', blanks'', blanks''', rfl⟩
    · simp only [shape, side, List.append_assoc]
      exact dropBlanks_of_reading blanks solid _
    · exact fun line => reading.leftSide.oneLine (side ▸ List.mem_cons_of_mem c line)
  · intro cut
    obtain ⟨c, front, back, whole, side, line, continues⟩ := cut
    obtain ⟨before, blanks, shape⟩ := blanks_dropped text
    obtain ⟨behind, after, rest, blanks', blanks'', blanks''', shape'⟩ := continues.spelled
    have solid := dropBlanks_head whole
    refine ⟨⟨⟨c, front, side, solid⟩, ?_⟩, continues.side, before, behind, after, rest, blanks,
      blanks', blanks'', blanks''', ?_⟩
    · intro member
      rw [side] at member
      rcases List.mem_cons.mp member with same | later
      · exact absurd solid (same ▸ (by decide : ¬ isBlank '\n' = false))
      · exact line later
    · rw [shape, whole, side, shape']
      simp

/-- The operator and the trimmed right side make a reading with the same left side. -/
theorem Continues.trimmed (continues : Continues cs kind right) :
    Continues cs kind (dropTrailingBlanks right) :=
  (continues_of_continuation? continues.continuation?).1

/-- Among the readings of a text one has the shortest left side and, for that, the shortest
right side. -/
structure Shortest (text left : List Char) (kind : Kind) (right : List Char) : Prop where
  reading : Reading text left kind right
  least : ∀ left' kind' right', Reading text left' kind' right' →
    left.length ≤ left'.length ∧ (left.length = left'.length → right.length ≤ right'.length)

/-- Splitting finds a shortest reading: with a shorter left side the text would not continue. -/
theorem shortest_of_splitChars? (split : splitChars? text = some (left, kind, right)) :
    Shortest text left kind right := by
  obtain ⟨c, front, back, whole, side, cut⟩ := splitChars?_eq_some.mp split
  have continues := (continues_of_continuation? cut.continues).1
  refine ⟨reading_iff.mpr ⟨c, front, back, whole, side.symm, cut.oneLine, continues⟩, ?_⟩
  intro left' kind' right' reading
  obtain ⟨d, front', back', whole', side', _, continues'⟩ := reading_iff.mp reading
  have same := (List.cons.inj (whole.symm.trans whole')).2
  have answer := continues'.continuation?
  subst side side'
  have shorter : front.length ≤ front'.length := by
    apply Nat.le_of_not_lt
    intro earlier
    obtain ⟨more, longer⟩ : front' <+: front :=
      List.prefix_of_prefix_length_le (List.prefix_append front' back')
        (same ▸ List.prefix_append front back) (Nat.le_of_lt earlier)
    have nonempty : more ≠ [] := by
      intro nothing
      simp [← longer, nothing] at earlier
    rw [← longer, List.append_assoc, List.append_cancel_left_eq] at same
    rw [← same, cut.first more nonempty ⟨front', longer⟩] at answer
    cases answer
  refine ⟨by simpa using shorter, ?_⟩
  intro lengths
  obtain ⟨_, backs⟩ := List.append_inj same (by simpa using lengths)
  rw [← backs, cut.continues] at answer
  rw [(Prod.mk.inj (Option.some.inj answer)).2]
  exact (dropTrailingBlanks_isPrefix right').length_le

/-- The walk over a text finds a cut if there is one before its line ends. -/
theorem splitAfter_ne_none (line : '\n' ∉ front) (continues : continuation? back ≠ none) :
    splitAfter before (front ++ back) ≠ none := by
  induction front generalizing before with
  | nil =>
    cases back with
    | nil => exact absurd rfl continues
    | cons c rest =>
      obtain ⟨found, here⟩ := Option.ne_none_iff_exists'.mp continues
      rw [List.nil_append, splitAfter, here]
      simp
  | cons c others ih =>
    obtain ⟨apart, later⟩ := not_or.mp fun either => line (List.mem_cons.mpr either)
    rw [List.cons_append, splitAfter]
    split
    · simp
    · rw [if_neg (Ne.symm apart)]
      exact ih later

theorem splitChars?_ne_none (reading : Reading text left kind right) :
    splitChars? text ≠ none := by
  obtain ⟨c, front, back, whole, _, line, continues⟩ := reading_iff.mp reading
  rw [splitChars?, whole]
  apply splitAfter_ne_none line
  rw [continues.continuation?]
  simp

theorem Shortest.right_solid (shortest : Shortest text left kind right) :
    dropTrailingBlanks right = right := by
  obtain ⟨c, front, back, whole, side, line, continues⟩ := reading_iff.mp shortest.reading
  have less := (shortest.least left kind _
    (reading_iff.mpr ⟨c, front, back, whole, side, line, continues.trimmed⟩)).2 rfl
  exact (dropTrailingBlanks_isPrefix right).eq_of_length
    (Nat.le_antisymm (dropTrailingBlanks_isPrefix right).length_le less)

theorem Shortest.unique {left' right' : List Char} {kind' : Kind}
    (first : Shortest text left kind right) (second : Shortest text left' kind' right') :
    left = left' ∧ kind = kind' ∧ right = right' := by
  have lengths := Nat.le_antisymm (first.least _ _ _ second.reading).1
    (second.least _ _ _ first.reading).1
  obtain ⟨c, front, back, whole, side, _, continues⟩ := reading_iff.mp first.reading
  obtain ⟨d, front', back', whole', side', _, continues'⟩ := reading_iff.mp second.reading
  obtain ⟨heads, tails⟩ := List.cons.inj (whole.symm.trans whole')
  subst side side' heads
  obtain ⟨fronts, backs⟩ := List.append_inj tails (by simpa using lengths)
  have answer := continues'.continuation?
  rw [← backs, continues.continuation?, first.right_solid, second.right_solid] at answer
  obtain ⟨kinds, rights⟩ := Prod.mk.inj (Option.some.inj answer)
  exact ⟨congrArg _ fronts, kinds, rights⟩

theorem splitChars?_eq_some_iff :
    splitChars? text = some (left, kind, right) ↔ Shortest text left kind right := by
  constructor
  · exact shortest_of_splitChars?
  · intro shortest
    obtain ⟨parts, split⟩ := Option.ne_none_iff_exists'.mp (splitChars?_ne_none shortest.reading)
    obtain ⟨left', kind', right'⟩ := parts
    obtain ⟨rfl, rfl, rfl⟩ := shortest.unique (shortest_of_splitChars? split)
    exact split

theorem splitChars?_eq_none_iff :
    splitChars? text = none ↔ ¬ ∃ left kind right, Reading text left kind right := by
  constructor
  · intro refused readable
    obtain ⟨left, kind, right, reading⟩ := readable
    exact splitChars?_ne_none reading refused
  · intro unreadable
    apply Option.eq_none_iff_forall_ne_some.mpr
    intro parts split
    obtain ⟨left, kind, right⟩ := parts
    exact unreadable ⟨left, kind, right, (shortest_of_splitChars? split).reading⟩

/-- A side that ends with no blank and holds no character of an operator. -/
structure PlainSide (cs : List Char) : Prop where
  side : Side cs
  ends : ∀ c, cs.getLast? = some c → isBlank c = false
  apart : ∀ c ∈ cs, c ∉ operatorChars

/-- Inside a plain side no operator starts, so the text is not cut there. -/
theorem PlainSide.continuation?_eq_none (plain : PlainSide left) {more : List Char}
    (nonempty : more ≠ []) (suffix : more <:+ left) :
    Constraint.continuation? (more ++ back) = none := by
  obtain ⟨front, whole⟩ := suffix
  have last : left.getLast? = some (more.getLast nonempty) := by
    rw [← whole, List.getLast?_append, List.getLast?_eq_some_getLast nonempty]
    rfl
  have kept := mem_dropBlanks (List.getLast_mem nonempty) (plain.ends _ last)
  have tail := dropBlanks_append_of_ne_nil (List.ne_nil_of_mem kept) back
  cases shape : dropBlanks more with
  | nil => exact absurd shape (List.ne_nil_of_mem kept)
  | cons c others =>
    have inside : c ∈ left := by
      rw [← whole]
      exact List.mem_append_right _ ((dropBlanks_suffix more).subset (by simp [shape]))
    have free : operatorAt? (c :: (others ++ back)) = none := by
      apply Option.eq_none_iff_forall_ne_some.mpr
      intro parts operator
      exact plain.apart c inside (head_mem_operatorChars operator)
    rw [Constraint.continuation?, tail, shape, List.cons_append, free]

/-- Plain sides are cut where they were put together, whatever blanks are around them. -/
theorem splitChars?_of_plain {before behind : List Char} (first : PlainSide left)
    (second : PlainSide right) (blanks : Blanks before)
    (continues : Continues (behind ++ (kind.operator.toList ++ (after ++ (right ++ rest)))) kind
      right) :
    splitChars? (before ++ left ++ behind ++ kind.operator.toList ++ after ++ right ++ rest) =
      some (left, kind, right) := by
  obtain ⟨c, front, shape, solid⟩ := first.side.starts
  have answer := continues.continuation?
  rw [dropTrailingBlanks_eq_self_iff.mpr second.ends] at answer
  refine splitChars?_eq_some.mpr ⟨c, front, _, ?_, shape.symm, answer, ?_, ?_⟩
  · simp only [shape, List.append_assoc]
    exact dropBlanks_of_reading blanks solid _
  · exact fun line => first.side.oneLine (shape ▸ List.mem_cons_of_mem c line)
  · intro more nonempty suffix
    exact first.continuation?_eq_none nonempty (shape ▸ suffix.trans (List.suffix_cons c front))

theorem Shortest.trimmed (shortest : Shortest text left kind right) :
    Trimmed left ∧ Trimmed right := by
  have split := splitChars?_eq_some_iff.mpr shortest
  obtain ⟨c, front, back, _, _, cut⟩ := splitChars?_eq_some.mp split
  exact ⟨trimmed_of_splitChars? split, (continues_of_continuation? cut.continues).2⟩

theorem split?_eq_none_iff {text : String} :
    split? text = none ↔ ¬ ∃ left kind right, Reading text.toList left kind right := by
  rw [split?, Option.map_eq_none_iff, splitChars?_eq_none_iff]

/-- A text is split exactly if it can be read as two sides with an operator between them, and then
at the reading with the shortest left side and, for that, the shortest right side, neither of which
has a blank at its ends. What cannot be read is refused as malformed, whichever constraint it was to
be. Around plain sides and their operator blanks make no difference. -/
theorem split?_by_grammar (text : String) :
    ((∃ parts, split? text = some parts) ↔
        ∃ left kind right, Reading text.toList left kind right) ∧
      (∀ left kind right, split? text = some (left, kind, right) ↔
        Shortest text.toList left.toList kind right.toList) ∧
      (∀ left kind right, split? text = some (left, kind, right) →
        Trimmed left.toList ∧ Trimmed right.toList) ∧
      ((¬ ∃ left kind right, Reading text.toList left kind right) → ∀ domain : Domain,
        (∀ ns : Namespace,
          ns.readConstraint domain text = (.error ⟨.malformedConstraint, text⟩, ns)) ∧
        SymbolConstraint.read domain text = .error ⟨.malformedConstraint, text⟩) ∧
      ∀ before left behind kind after right rest, Blanks before → Blanks behind → Blanks after →
        Blanks rest → PlainSide left → PlainSide right →
        text.toList = before ++ left ++ behind ++ kind.operator.toList ++ after ++ right ++ rest →
        split? text = some (.ofList left, kind, .ofList right) := by
  have found : ∀ left kind right, split? text = some (left, kind, right) ↔
      Shortest text.toList left.toList kind right.toList := by
    intro left kind right
    rw [split?_eq_some, splitChars?_eq_some_iff]
  refine ⟨?_, found, ?_, ?_, ?_⟩
  · rw [← Option.ne_none_iff_exists', ne_eq, split?_eq_none_iff, Classical.not_not]
  · intro left kind right split
    exact ((found left kind right).mp split).trimmed
  · intro unreadable domain
    have refused := split?_eq_none_iff.mpr unreadable
    refine ⟨fun ns => ?_, ?_⟩
    · rw [Namespace.readConstraint, refused]
    · rw [SymbolConstraint.read, refused]
  · intro before left behind kind after right rest blanks blanksBehind blanksAfter blanksRest first
      second spelled
    rw [split?_eq_some, spelled, String.toList_ofList, String.toList_ofList]
    exact splitChars?_of_plain first second blanks
      ⟨second.side, behind, after, rest, blanksBehind, blanksAfter, blanksRest, rfl⟩

/-- An operator at the front is the start of a side, and of two operators that overlap the first
counts. Where each operator leaves a line break in one of the sides, there is no reading. -/
theorem split?_by_grammar_overlapping :
    Shortest " <= <=> b\n".toList "<=".toList .flow "> b".toList ∧
      Trimmed "> b".toList ∧
      (¬ ∃ left kind right, Reading "a ~ b\nc <= d".toList left kind right) ∧
      SymbolConstraint.read .twoPoint "a ~ b\nc <= d" =
        .error ⟨.malformedConstraint, "a ~ b\nc <= d"⟩ := by
  have split : split? " <= <=> b\n" = some ("<=", .flow, "> b") := by decide +kernel
  have refused : split? "a ~ b\nc <= d" = none := by decide +kernel
  obtain ⟨_, shortest, trimmed, _⟩ := split?_by_grammar " <= <=> b\n"
  obtain ⟨_, _, _, malformed, _⟩ := split?_by_grammar "a ~ b\nc <= d"
  have unreadable := split?_eq_none_iff.mp refused
  exact ⟨(shortest _ _ _).mp split, (trimmed _ _ _ split).2, unreadable,
    (malformed unreadable .twoPoint).2⟩

end FlowTyping.Constraint
