namespace FlowTyping.Text

/-- The pieces of a text between the occurrences of a separator. -/
def splitAtChar (separator : Char) : List Char → List (List Char)
  | [] => [[]]
  | c :: rest =>
    if c = separator then [] :: splitAtChar separator rest
    else
      match splitAtChar separator rest with
      | [] => [[c]]
      | piece :: pieces => (c :: piece) :: pieces

theorem splitAtChar_ne_nil (separator : Char) (cs : List Char) : splitAtChar separator cs ≠ [] := by
  cases cs with
  | nil => simp [splitAtChar]
  | cons c rest =>
    unfold splitAtChar
    split
    · simp
    · split <;> simp

theorem intercalate_splitAtChar (separator : Char) (cs : List Char) :
    [separator].intercalate (splitAtChar separator cs) = cs := by
  induction cs with
  | nil => simp [splitAtChar, List.intercalate]
  | cons c rest ih =>
    unfold splitAtChar
    split
    · rename_i here
      cases pieces : splitAtChar separator rest with
      | nil => exact absurd pieces (splitAtChar_ne_nil separator rest)
      | cons piece others =>
        rw [pieces] at ih
        simp [List.intercalate] at ih ⊢
        exact ⟨here.symm, ih⟩
    · cases pieces : splitAtChar separator rest with
      | nil => exact absurd pieces (splitAtChar_ne_nil separator rest)
      | cons piece others =>
        rw [pieces] at ih
        cases others with
        | nil => simpa [List.intercalate] using ih
        | cons next further => simpa [List.intercalate] using ih

variable {separator : Char} {piece : List Char} {pieces : List (List Char)}

theorem splitAtChar_of_not_mem (free : separator ∉ piece) :
    splitAtChar separator piece = [piece] := by
  induction piece with
  | nil => rfl
  | cons c rest ih =>
    obtain ⟨apart, later⟩ := not_or.mp (fun either => free (List.mem_cons.mpr either))
    rw [splitAtChar, if_neg (Ne.symm apart), ih later]

theorem splitAtChar_append (free : separator ∉ piece) (rest : List Char) :
    splitAtChar separator (piece ++ separator :: rest) = piece :: splitAtChar separator rest := by
  induction piece with
  | nil => simp [splitAtChar]
  | cons c others ih =>
    obtain ⟨apart, later⟩ := not_or.mp (fun either => free (List.mem_cons.mpr either))
    rw [List.cons_append, splitAtChar, if_neg (Ne.symm apart), ih later]

/-- Pieces that do not hold the separator, joined with it, are cut where they were joined. -/
theorem splitAtChar_intercalate (nonempty : pieces ≠ [])
    (free : ∀ piece ∈ pieces, separator ∉ piece) :
    splitAtChar separator ([separator].intercalate pieces) = pieces := by
  induction pieces with
  | nil => exact absurd rfl nonempty
  | cons first others ih =>
    have alone : separator ∉ first := free first (by simp)
    cases others with
    | nil => rw [List.intercalate_singleton, splitAtChar_of_not_mem alone]
    | cons second further =>
      rw [List.intercalate_cons_cons, List.append_assoc, List.singleton_append,
        splitAtChar_append alone, ih (by simp)]
      intro piece later
      exact free piece (List.mem_cons_of_mem first later)

theorem mem_intercalate {c : Char} (member : c ∈ [separator].intercalate pieces) :
    c = separator ∨ ∃ piece ∈ pieces, c ∈ piece := by
  induction pieces with
  | nil => simp [List.intercalate_nil] at member
  | cons first others ih =>
    cases others with
    | nil =>
      rw [List.intercalate_singleton] at member
      exact Or.inr ⟨first, by simp, member⟩
    | cons second further =>
      rw [List.intercalate_cons_cons] at member
      rcases List.mem_append.mp member with early | late
      · rcases List.mem_append.mp early with here | between
        · exact Or.inr ⟨first, by simp, here⟩
        · exact Or.inl (List.mem_singleton.mp between)
      · rcases ih late with same | ⟨piece, listed, there⟩
        · exact Or.inl same
        · exact Or.inr ⟨piece, List.mem_cons_of_mem first listed, there⟩

end FlowTyping.Text
