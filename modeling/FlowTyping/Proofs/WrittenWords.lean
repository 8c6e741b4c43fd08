import FlowTyping.Text.Blank
import FlowTyping.Text.Digit

namespace FlowTyping

namespace Text

def operatorChars : List Char := ['<', '=', '>', '~']

/-- A text that can stand as one side of a constraint. -/
structure IsWord (cs : List Char) : Prop where
  nonempty : cs ≠ []
  solid : ∀ c ∈ cs, isBlank c = false
  apart : ∀ c ∈ cs, c ∉ operatorChars

def inWord (c : Char) : Bool := !isBlank c && !operatorChars.contains c

theorem inWord_iff {c : Char} : inWord c = true ↔ isBlank c = false ∧ c ∉ operatorChars := by
  simp [inWord]

theorem isWord_iff {cs : List Char} : IsWord cs ↔ cs ≠ [] ∧ cs.all inWord = true := by
  simp only [List.all_eq_true, inWord_iff]
  constructor
  · intro word
    exact ⟨word.nonempty, fun c member => ⟨word.solid c member, word.apart c member⟩⟩
  · intro parts
    exact ⟨parts.1, fun c member => (parts.2 c member).1, fun c member => (parts.2 c member).2⟩

instance (cs : List Char) : Decidable (IsWord cs) := decidable_of_iff _ isWord_iff.symm

variable {cs : List Char} {text : String}

theorem dropBlanks_cons {c : Char} (solid : isBlank c = false) (rest : List Char) :
    dropBlanks (c :: rest) = c :: rest := by
  simp [dropBlanks, solid]

/-- No blank stands at either end of a text. -/
structure Trimmed (cs : List Char) : Prop where
  front : ∀ c, cs.head? = some c → isBlank c = false
  back : ∀ c, cs.getLast? = some c → isBlank c = false

theorem dropBlanks_eq_self_iff :
    dropBlanks cs = cs ↔ ∀ c, cs.head? = some c → isBlank c = false := by
  cases cs with
  | nil => simp [dropBlanks]
  | cons c rest =>
    constructor
    · intro same d first
      obtain rfl := Option.some.inj first
      exact dropBlanks_head same
    · intro solid
      exact dropBlanks_cons (solid c rfl) rest

theorem dropTrailingBlanks_eq_self_iff :
    dropTrailingBlanks cs = cs ↔ ∀ c, cs.getLast? = some c → isBlank c = false := by
  rw [dropTrailingBlanks, List.reverse_eq_iff, dropBlanks_eq_self_iff, List.head?_reverse]

theorem dropBlanks_suffix (cs : List Char) : dropBlanks cs <:+ cs := List.dropWhile_suffix isBlank

theorem dropTrailingBlanks_isPrefix (cs : List Char) : dropTrailingBlanks cs <+: cs := by
  apply List.reverse_suffix.mp
  rw [dropTrailingBlanks, List.reverse_reverse]
  exact dropBlanks_suffix cs.reverse

theorem mem_of_mem_stripChars {c : Char} (member : c ∈ stripChars cs) : c ∈ cs :=
  (dropBlanks_suffix cs).subset ((dropTrailingBlanks_isPrefix _).subset member)

theorem stripChars_eq_self_iff : stripChars cs = cs ↔ Trimmed cs := by
  constructor
  · intro same
    have front : dropBlanks cs = cs := by
      apply (dropBlanks_suffix cs).eq_of_length
      apply Nat.le_antisymm (dropBlanks_suffix cs).length_le
      have shorter := (dropTrailingBlanks_isPrefix (dropBlanks cs)).length_le
      rwa [← stripChars, same] at shorter
    rw [stripChars, front] at same
    exact ⟨dropBlanks_eq_self_iff.mp front, dropTrailingBlanks_eq_self_iff.mp same⟩
  · intro trimmed
    rw [stripChars, dropBlanks_eq_self_iff.mpr trimmed.front,
      dropTrailingBlanks_eq_self_iff.mpr trimmed.back]

theorem trimmed_stripChars (cs : List Char) : Trimmed (stripChars cs) := by
  constructor
  · intro c first
    obtain ⟨rest, shape⟩ := List.head?_eq_some_iff.mp first
    obtain ⟨more, whole⟩ := dropTrailingBlanks_isPrefix (dropBlanks cs)
    rw [← stripChars, shape, List.cons_append] at whole
    exact dropBlanks_head whole.symm
  · intro c last
    obtain ⟨rest, shape⟩ := List.getLast?_eq_some_iff.mp last
    have backwards := congrArg List.reverse shape
    rw [stripChars, dropTrailingBlanks, List.reverse_reverse, List.reverse_append] at backwards
    exact dropBlanks_head backwards

theorem strip_eq_self_iff : strip text = text ↔ Trimmed text.toList := by
  rw [← stripChars_eq_self_iff, strip]
  constructor
  · intro same
    rw [← String.toList_ofList (l := stripChars text.toList), same]
  · intro same
    rw [same, String.ofList_toList]

theorem mem_dropBlanks {c : Char} (member : c ∈ cs) (solid : isBlank c = false) :
    c ∈ dropBlanks cs := by
  induction cs with
  | nil => cases member
  | cons d rest ih =>
    cases blank : isBlank d with
    | false => rwa [dropBlanks_cons blank]
    | true =>
      have step : dropBlanks (d :: rest) = dropBlanks rest := by simp [dropBlanks, blank]
      rcases List.mem_cons.mp member with same | later
      · subst same
        rw [solid] at blank
        cases blank
      · rw [step]
        exact ih later

/-- What follows a text that is not blank stays when blanks are dropped at its front. -/
theorem dropBlanks_append_of_ne_nil (kept : dropBlanks cs ≠ []) (more : List Char) :
    dropBlanks (cs ++ more) = dropBlanks cs ++ more := by
  rw [dropBlanks, List.dropWhile_append]
  exact if_neg fun empty => kept (List.isEmpty_iff.mp empty)

theorem mem_stripChars {c : Char} (member : c ∈ cs) (solid : isBlank c = false) :
    c ∈ stripChars cs := by
  have front := List.mem_reverse.mpr (mem_dropBlanks member solid)
  exact List.mem_reverse.mpr (mem_dropBlanks front solid)

variable {separator : Char} {first : List Char} {pieces others : List (List Char)}

theorem intercalate_ne_nil (full : first ≠ []) :
    [separator].intercalate (first :: others) ≠ [] := by
  cases others with
  | nil => simpa using full
  | cons second further => simp [List.intercalate_cons_cons]

theorem trimmed_intercalate (full : ∀ piece ∈ pieces, piece ≠ [])
    (trimmed : ∀ piece ∈ pieces, Trimmed piece) : Trimmed ([separator].intercalate pieces) := by
  induction pieces with
  | nil => constructor <;> simp
  | cons first others ih =>
    have here := trimmed first (by simp)
    have nonempty := full first (by simp)
    have later := ih (fun piece listed => full piece (List.mem_cons_of_mem first listed))
      fun piece listed => trimmed piece (List.mem_cons_of_mem first listed)
    cases others with
    | nil => rwa [List.intercalate_singleton]
    | cons second further =>
      have more : [separator].intercalate (second :: further) ≠ [] :=
        intercalate_ne_nil (full second (by simp))
      rw [List.intercalate_cons_cons]
      constructor
      · intro c head
        cases first with
        | nil => exact absurd rfl nonempty
        | cons d rest => exact here.front c head
      · intro c last
        rw [List.getLast?_append, List.getLast?_eq_some_getLast more] at last
        exact later.back c ((List.getLast?_eq_some_getLast more).trans last)

theorem IsWord.trimmed (word : IsWord cs) : Trimmed cs where
  front c first := word.solid c (List.mem_of_head? first)
  back c last := word.solid c (List.mem_of_getLast? last)

theorem IsWord.strip (word : IsWord text.toList) : Text.strip text = text :=
  strip_eq_self_iff.mpr word.trimmed

theorem digitValue?_digitChar {digit : Nat} (small : digit < 10) :
    digitValue? digit.digitChar = some digit := by
  revert digit
  decide

/-- A digit at the end is worth itself, and what stands before it ten times as much. -/
theorem readDigits_snoc {c : Char} {digit : Nat} (value : Nat) (last : digitValue? c = some digit) :
    readDigits value (cs ++ [c]) = (readDigits value cs).map (10 * · + digit) := by
  induction cs generalizing value with
  | nil => simp [readDigits, last]
  | cons first rest ih =>
    simp only [List.cons_append, readDigits]
    cases digitValue? first with
    | none => rfl
    | some digit => exact ih _

theorem readDigits_toDigits (number : Nat) :
    readDigits 0 (Nat.toDigits 10 number) = some number := by
  induction number using Nat.strongRecOn with
  | ind number ih =>
    rw [Nat.toDigits_eq_if (by decide)]
    split
    · rename_i small
      simp [readDigits, digitValue?_digitChar small]
    · rename_i large
      have last := digitValue?_digitChar (Nat.mod_lt number (by decide : 10 > 0))
      rw [readDigits_snoc 0 last, ih _ (Nat.div_lt_self (by omega) (by decide))]
      simp only [Option.map_some]
      rw [Nat.div_add_mod]

theorem readNat?_toDigits (number : Nat) : readNat? (Nat.toDigits 10 number) = some number := by
  cases shape : Nat.toDigits 10 number with
  | nil => exact absurd shape Nat.toDigits_ne_nil
  | cons c rest =>
    show readDigits 0 (c :: rest) = some number
    rw [← shape]
    exact readDigits_toDigits number

theorem firstLonger_pos (count : Nat) : 0 < firstLonger count := Nat.pow_pos (by decide)

theorem length_toDigits_le {limit number : Nat} (positive : 0 < limit) :
    (Nat.toDigits 10 number).length ≤ limit ↔ number < firstLonger limit :=
  Nat.length_toDigits_le_iff (by decide) positive

theorem length_toDigits_firstLonger {limit : Nat} (positive : 0 < limit) :
    (Nat.toDigits 10 (firstLonger limit)).length = limit + 1 := by
  have more : ¬ (Nat.toDigits 10 (firstLonger limit)).length ≤ limit := by
    rw [length_toDigits_le positive]
    exact Nat.lt_irrefl _
  have enough : (Nat.toDigits 10 (firstLonger limit)).length ≤ limit + 1 := by
    rw [length_toDigits_le (Nat.succ_pos limit)]
    exact Nat.pow_lt_pow_right (by decide) (Nat.lt_succ_self limit)
  omega

/-- A number is written if it has no more digits than the limit. -/
theorem writeInt_ofNat (number : Nat) :
    writeInt (Int.ofNat number) =
      if number < firstLonger digitLimit then .ok (toString (Int.ofNat number))
      else .error ⟨none⟩ := by
  have magnitude : (Int.ofNat number).natAbs = number := Int.natAbs_natCast number
  simp only [writeInt, magnitude]

theorem withinLimit_toDigits {α : Type} (number : Nat) (value : α) :
    withinLimit (Nat.toDigits 10 number).length value =
      if number < firstLonger digitLimit then .ok value
      else .error ⟨some (Nat.toDigits 10 number).length⟩ := by
  simp only [withinLimit, length_toDigits_le (by decide : 0 < digitLimit)]

theorem isWord_toDigits (number : Nat) : IsWord (Nat.toDigits 10 number) := by
  have digits : ∀ c ∈ Nat.toDigits 10 number, 48 ≤ c.toNat ∧ c.toNat ≤ 57 := by
    intro c member
    have digit := Nat.isDigit_of_mem_toDigits (by decide) (by decide) member
    simpa [Char.isDigit, UInt32.le_iff_toNat_le] using digit
  have blanks : ∀ range ∈ blankRanges, range.last < 48 ∨ 57 < range.first := by decide
  have operators : ∀ c ∈ operatorChars, 57 < c.toNat := by simp [operatorChars]
  refine ⟨Nat.toDigits_ne_nil, ?_, ?_⟩
  · intro c member
    have digit := digits c member
    apply Bool.eq_false_iff.mpr
    intro blank
    obtain ⟨range, listed, first, last⟩ := inRanges_iff.mp blank
    have outside := blanks range listed
    omega
  · intro c member listed
    have above := operators c listed
    have below := (digits c member).2
    omega

end Text

end FlowTyping
