import FlowTyping.Text.Range

namespace FlowTyping.Text

/-- The white space characters of Unicode together with the four information separators. -/
def blankRanges : List Range :=
  [⟨0x9, 0xD⟩, ⟨0x1C, 0x20⟩, ⟨0x85, 0x85⟩, ⟨0xA0, 0xA0⟩, ⟨0x1680, 0x1680⟩,
   ⟨0x2000, 0x200A⟩, ⟨0x2028, 0x2029⟩, ⟨0x202F, 0x202F⟩, ⟨0x205F, 0x205F⟩, ⟨0x3000, 0x3000⟩]

def isBlank (c : Char) : Bool := inRanges blankRanges c

def dropBlanks (cs : List Char) : List Char := cs.dropWhile isBlank

def dropTrailingBlanks (cs : List Char) : List Char := (dropBlanks cs.reverse).reverse

/-- The characters of a text between the blanks at its ends. -/
def stripChars (cs : List Char) : List Char := dropTrailingBlanks (dropBlanks cs)

def strip (text : String) : String := String.ofList (stripChars text.toList)

def isBlankText (text : String) : Bool := text.toList.all isBlank

theorem dropBlanks_head {cs : List Char} {c : Char} {rest : List Char}
    (shape : dropBlanks cs = c :: rest) : isBlank c = false := by
  induction cs with
  | nil => simp [dropBlanks] at shape
  | cons d others ih =>
    by_cases blank : isBlank d
    · have step : dropBlanks (d :: others) = dropBlanks others := by
        simp [dropBlanks, blank]
      exact ih (step ▸ shape)
    · have step : dropBlanks (d :: others) = d :: others := by
        simp [dropBlanks, blank]
      rw [step] at shape
      obtain ⟨rfl, rfl⟩ := List.cons.inj shape
      simpa using blank

end FlowTyping.Text
