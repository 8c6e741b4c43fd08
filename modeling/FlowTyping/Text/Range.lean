namespace FlowTyping.Text

/-- The code points from `first` to `last`, both included. -/
structure Range where
  first : Nat
  last : Nat
  deriving DecidableEq, Repr

def Range.covers (r : Range) (code : Nat) : Bool :=
  decide (r.first ≤ code) && decide (code ≤ r.last)

def inRanges (table : List Range) (c : Char) : Bool :=
  table.any (fun r => r.covers c.toNat)

theorem inRanges_iff {table : List Range} {c : Char} :
    inRanges table c = true ↔ ∃ r ∈ table, r.first ≤ c.toNat ∧ c.toNat ≤ r.last := by
  simp [inRanges, Range.covers]

/-- Ranges written as a flat list of their ends: first, last, first, last, and so on. -/
def rangesOfEnds : List Nat → List Range
  | first :: last :: rest => ⟨first, last⟩ :: rangesOfEnds rest
  | _ => []

end FlowTyping.Text
