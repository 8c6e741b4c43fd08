/-!
Texts as sequences of code points. Half of a surrogate pair is a code point that may stand
alone in a text, and yet it is no character, so a string cannot hold it. A string holds in
its place a mark and a character that stands in for it. The mark is the first character
behind the halves and is itself written that way. So strings are ordered as their code
points are, and the code points can be had back.
-/

namespace FlowTyping.Text

def mark : Char := Char.ofNat 0xE000

/-- How far behind a code point its stand-in is found. -/
def standInOffset : Nat := 0x800

def isHalf (code : Nat) : Bool := decide (0xD800 ≤ code) && decide (code ≤ 0xDFFF)

/-- Whether a code point is written by a stand-in: it is half of a pair, or the mark. -/
def isMarked (code : Nat) : Bool := decide (0xD800 ≤ code) && decide (code ≤ 0xE000)

/-- The characters that write a code point. -/
def charsOf (code : Nat) : List Char :=
  if isMarked code then [mark, Char.ofNat (code + standInOffset)] else [Char.ofNat code]

/-- The code point for which a character stands in. -/
def standsFor? (c : Char) : Option Nat :=
  if 0xE000 ≤ c.toNat ∧ c.toNat ≤ 0xE800 then some (c.toNat - standInOffset) else none

def codePointsOf : List Char → List Nat
  | [] => []
  | [c] => [c.toNat]
  | c :: next :: rest =>
    if c = mark then
      match standsFor? next with
      | some code => code :: codePointsOf rest
      | none => c.toNat :: codePointsOf (next :: rest)
    else c.toNat :: codePointsOf (next :: rest)

def codePoints (text : String) : List Nat := codePointsOf text.toList

def ofCodePoints (codes : List Nat) : String := String.ofList (codes.flatMap charsOf)

/-- The text that a string of plain characters stands for. -/
def ofPlain (plain : String) : String := ofCodePoints (plain.toList.map Char.toNat)

/-- A text in plain characters; one of them replaces every half of a pair. -/
def toPlain (text : String) : String :=
  String.ofList ((codePoints text).map (fun code =>
    if isHalf code then Char.ofNat 0xFFFD else Char.ofNat code))

/-- The texts of the single code points of a text. -/
def pieces (text : String) : List String := (codePoints text).map (fun code => ofCodePoints [code])

/-- The number of bytes that a text takes when it is stored. -/
def storedSize (text : String) : Nat :=
  (codePoints text).foldl (fun size code => size + (Char.ofNat code).utf8Size) 0

theorem toNat_ofNat {code : Nat} (valid : code.isValidChar) : (Char.ofNat code).toNat = code := by
  rw [Char.ofNat, dif_pos valid]
  rfl

/-- A marked code point can be had back from its stand-in. -/
theorem standsFor?_standIn {code : Nat} (marked : isMarked code = true) :
    standsFor? (Char.ofNat (code + standInOffset)) = some code := by
  have bounds : 0xD800 ≤ code ∧ code ≤ 0xE000 := by simpa [isMarked] using marked
  have offset : standInOffset = 0x800 := rfl
  have same : (Char.ofNat (code + standInOffset)).toNat = code + standInOffset :=
    toNat_ofNat (Or.inr ⟨by omega, by omega⟩)
  rw [standsFor?, if_pos (by omega), same]
  simp

/-- A character that needs no mark stands for itself, whatever follows it. -/
theorem codePointsOf_cons {c : Char} (plain : c ≠ mark) (rest : List Char) :
    codePointsOf (c :: rest) = c.toNat :: codePointsOf rest := by
  cases rest with
  | nil => simp [codePointsOf]
  | cons next rest => simp [codePointsOf, plain]

/-- Code points can be had back from the characters that write them. -/
theorem codePointsOf_flatMap_charsOf {codes : List Nat} (valid : ∀ code ∈ codes, code ≤ 0x10FFFF) :
    codePointsOf (codes.flatMap charsOf) = codes := by
  induction codes with
  | nil => rfl
  | cons code rest ih =>
    have others := ih (fun other member => valid other (List.mem_cons_of_mem code member))
    by_cases marked : isMarked code = true
    · simp [charsOf, marked, codePointsOf, standsFor?_standIn marked, others]
    · have outside : code < 0xD800 ∨ 0xE000 < code := by
        simp [isMarked] at marked
        omega
      have bound := valid code List.mem_cons_self
      have same : (Char.ofNat code).toNat = code := by
        rcases outside with below | above
        · exact toNat_ofNat (Or.inl (by omega))
        · exact toNat_ofNat (Or.inr ⟨by omega, by omega⟩)
      have plain : Char.ofNat code ≠ mark := by
        intro equal
        have codes := congrArg Char.toNat equal
        rw [same] at codes
        have markCode : mark.toNat = 0xE000 := by decide
        omega
      simp [charsOf, marked, codePointsOf_cons plain, same, others]

theorem isHalf_toNat (c : Char) : isHalf c.toNat = false := by
  have valid : c.toNat < 0xD800 ∨ 0xDFFF < c.toNat ∧ c.toNat < 0x110000 := c.valid
  simp [isHalf]
  omega

theorem toPlain_ofPlain (plain : String) : toPlain (ofPlain plain) = plain := by
  have valid : ∀ code ∈ plain.toList.map Char.toNat, code ≤ 0x10FFFF := by
    intro code member
    obtain ⟨c, _, same⟩ := List.mem_map.1 member
    have bounds : c.toNat < 0xD800 ∨ 0xDFFF < c.toNat ∧ c.toNat < 0x110000 := c.valid
    omega
  have codes : codePoints (ofPlain plain) = plain.toList.map Char.toNat := by
    simp [codePoints, ofPlain, ofCodePoints, codePointsOf_flatMap_charsOf valid]
  simp [toPlain, codes, Function.comp_def, isHalf_toNat]

end FlowTyping.Text
