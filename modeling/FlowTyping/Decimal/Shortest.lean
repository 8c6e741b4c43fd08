import FlowTyping.Decimal

/-!
The shortest decimal of a binary number: of all decimals that round to it, one with the
fewest digits, and of those the nearest. Whether a decimal rounds to a binary number is
told by exact comparison with the middles between the number and its two neighbours.
-/

namespace FlowTyping

/-- Compares a decimal with `significand * 2 ^ exponent`. -/
def Decimal.compareBinary (d : Decimal) (significand : Nat) (exponent : Int) : Ordering :=
  compare (d.digits * wholePower 10 d.exponent * wholePower 2 (-exponent))
    (significand * wholePower 2 exponent * wholePower 10 (-d.exponent))

namespace Binary

/-- Whether the neighbour below is nearer than the one above. -/
def isNarrowBelow (b : Binary) : Bool :=
  decide (b.significand = leastFull) && decide (leastExponent < b.exponent)

/-- Whether a decimal rounds to a binary number: it lies between the middles to the
neighbours, which belong to the even one of two. -/
def isRounded (b : Binary) (d : Decimal) : Bool :=
  let lower := d.compareBinary (4 * b.significand - (if b.isNarrowBelow then 1 else 2))
    (b.exponent - 2)
  let upper := d.compareBinary (4 * b.significand + 2) (b.exponent - 2)
  let closed := b.significand % 2 == 0
  (lower == .gt || (closed && lower == .eq)) && (upper == .lt || (closed && upper == .eq))

/-- The whole number of grid units in a binary number. -/
def unitsBelow (b : Binary) (grid : Int) : Nat :=
  (b.significand * wholePower 2 b.exponent * wholePower 10 (-grid)) /
    (wholePower 2 (-b.exponent) * wholePower 10 grid)

/-- A decimal on the grid `10 ^ grid` that rounds to a binary number: the nearer one of the
two next to it, and of two equally near the even one. -/
def onGrid? (b : Binary) (grid : Int) : Option Decimal :=
  let units := b.unitsBelow grid
  let lower : Decimal := ⟨units, grid⟩
  let upper : Decimal := ⟨units + 1, grid⟩
  match b.isRounded lower, b.isRounded upper with
  | true, true =>
    match Decimal.compareBinary ⟨2 * units + 1, grid⟩ (2 * b.significand) b.exponent with
    | .lt => some upper
    | .gt => some lower
    | .eq => some (if units % 2 = 0 then lower else upper)
  | true, false => some lower
  | false, true => some upper
  | false, false => none

theorem isRounded_of_onGrid? {b : Binary} {grid : Int} {d : Decimal}
    (found : b.onGrid? grid = some d) : b.isRounded d = true := by
  simp only [onGrid?] at found
  split at found
  · split at found <;> simp at found <;> subst found
    · assumption
    · assumption
    · split <;> assumption
  · simp at found
    subst found
    assumption
  · simp at found
    subst found
    assumption
  · simp at found

/-- The least power of ten above a binary number that is not zero, found near the estimate
that the binary logarithm gives. -/
def magnitude (b : Binary) : Int :=
  let estimate : Int := ((b.significand.log2 : Int) + b.exponent) * 30103 / 100000
  let exceeds (power : Int) : Bool :=
    Decimal.compareBinary ⟨1, power⟩ b.significand b.exponent == .gt
  (([-1, 0, 1].map (estimate + ·)).find? exceeds).getD (estimate + 2)

/-- The number itself, written out in full. -/
def exactDecimal (b : Binary) : Decimal :=
  ⟨b.significand * wholePower 2 b.exponent * wholePower 5 (-b.exponent), min b.exponent 0⟩

/-- The shortest decimal of a binary number that is not zero: the first one on ever finer
grids, which seventeen digits always reach. -/
def shortest (b : Binary) : Decimal :=
  ((List.range 17).findSome? (fun places => b.onGrid? (b.magnitude - 1 - Int.ofNat places))).getD
    b.exactDecimal

end Binary

end FlowTyping
