import FlowTyping.Text.CaseTable

namespace FlowTyping.Text

def mapCase (growing : List (Nat × List Nat)) (shifts : List Shift) (c : Char) : List Char :=
  match growing.find? (fun entry => entry.1 == c.toNat) with
  | some (_, image) => image.map Char.ofNat
  | none =>
    match shifts.find? (fun s => s.moves c.toNat) with
    | some s => [Char.ofNat (Int.ofNat c.toNat + s.delta).toNat]
    | none => [c]

def upperChar (c : Char) : List Char :=
  if c.toNat < 0x80 then [c.toUpper] else mapCase upperGrowing upperShifts c

/-- The lower case of one character that no neighbour influences. -/
def lowerChar (c : Char) : List Char :=
  if c.toNat < 0x80 then [c.toLower] else mapCase lowerGrowing lowerShifts c

def upper (text : String) : String := String.ofList (text.toList.flatMap upperChar)

/-- Whether the nearest character that case rules do not look through is a cased letter. -/
def nearestIsCased : List Char → Bool
  | [] => false
  | c :: rest =>
    if inRanges casedRanges c then true
    else if inRanges caseIgnorableRanges c then nearestIsCased rest
    else false

/-- The lower case of the rest of a text, given the characters before it in reverse. -/
def lowerFrom (before : List Char) : List Char → List Char
  | [] => []
  | c :: rest =>
    let image :=
      if c = 'Σ' then [if nearestIsCased before && !nearestIsCased rest then 'ς' else 'σ']
      else lowerChar c
    image ++ lowerFrom (c :: before) rest

def lower (text : String) : String := String.ofList (lowerFrom [] text.toList)

end FlowTyping.Text
