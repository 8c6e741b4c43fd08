/-!
Decimal numbers and the binary numbers nearest to them. A decimal is a whole number times a
power of ten. A binary number is a whole number of at most 53 bits times a power of two,
which is not below `2 ^ (-1074)` nor above `2 ^ 971`. Rounding goes to the nearest binary
number and, between two that are equally near, to the even one.
-/

namespace FlowTyping

/-- The number `digits * 10 ^ exponent`. -/
structure Decimal where
  digits : Nat
  exponent : Int
  deriving DecidableEq, Repr

/-- The number `significand * 2 ^ exponent`. -/
structure Binary where
  significand : Nat
  exponent : Int
  deriving DecidableEq, Repr

/-- A base raised to an exponent; a negative exponent counts as zero, so that of
`wholePower base e` and `wholePower base (-e)` the one is numerator and the other denominator. -/
def wholePower (base : Nat) (exponent : Int) : Nat := Nat.pow base exponent.toNat

/-- A quotient rounded to the nearest whole number, a half to the even one. -/
def roundDiv (num den : Nat) : Nat :=
  let quotient := num / den
  let rest := 2 * (num % den)
  if rest < den ∨ (rest = den ∧ quotient % 2 = 0) then quotient else quotient + 1

/-- The rounded quotient is no more than half a unit away. -/
theorem roundDiv_near {num den : Nat} (positive : 0 < den) :
    2 * num ≤ (2 * roundDiv num den + 1) * den ∧ (2 * roundDiv num den) * den ≤ 2 * num + den := by
  have whole : den * (num / den) + num % den = num := Nat.div_add_mod num den
  have small : num % den < den := Nat.mod_lt num positive
  have double : 2 * (num / den) * den = 2 * (den * (num / den)) := by
    rw [Nat.mul_assoc, Nat.mul_comm (num / den) den]
  simp only [roundDiv]
  split
  · simp only [Nat.add_mul, Nat.one_mul]
    omega
  · simp only [Nat.mul_add, Nat.add_mul, Nat.one_mul, Nat.mul_one]
    omega

namespace Binary

def leastExponent : Int := -1074

def greatestExponent : Int := 971

/-- The least whole number of 53 bits. -/
def leastFull : Nat := wholePower 2 52

def zero : Binary := ⟨0, leastExponent⟩

/-- The whole number that is left of a binary number without its fraction. -/
def whole (b : Binary) : Nat :=
  b.significand * wholePower 2 b.exponent / wholePower 2 (-b.exponent)

/-- The exponent with which a quotient has 53 bits, or the least one. -/
def exponentFor (num den : Nat) : Int :=
  let estimate : Int := (num.log2 : Int) - den.log2
  let leading :=
    if den * wholePower 2 estimate ≤ num * wholePower 2 (-estimate) then estimate else estimate - 1
  max (leading - 52) leastExponent

/-- The binary number nearest to a quotient, without regard to the greatest exponent. -/
def ofQuotient (num den : Nat) : Binary :=
  let exponent := exponentFor num den
  let significand := roundDiv (num * wholePower 2 (-exponent)) (den * wholePower 2 exponent)
  if significand = 2 * leastFull then ⟨leastFull, exponent + 1⟩ else ⟨significand, exponent⟩

end Binary

namespace Decimal

/-- The power of ten just above a decimal that is not zero. -/
def magnitude (d : Decimal) : Int := (Nat.toDigits 10 d.digits).length + d.exponent

/-- The binary number nearest to a decimal; none if it is beyond all of them. What is far
too large or far too small is told by its magnitude alone. -/
def nearest? (d : Decimal) : Option Binary :=
  if d.digits = 0 ∨ d.magnitude < -330 then some .zero
  else if 310 < d.magnitude then none
  else
    let found := Binary.ofQuotient (d.digits * wholePower 10 d.exponent)
      (wholePower 10 (-d.exponent))
    if Binary.greatestExponent < found.exponent then none else some found

end Decimal

end FlowTyping
