/-!
Integers as sets of bits. A number that is not negative is the finite set of its binary
places; a negative number is the complement of the number that precedes its absolute value.
-/

namespace FlowTyping.Bits

def union : Int → Int → Int
  | .ofNat m, .ofNat n => .ofNat (m ||| n)
  | .ofNat m, .negSucc n => .negSucc (n - (n &&& m))
  | .negSucc m, .ofNat n => .negSucc (m - (m &&& n))
  | .negSucc m, .negSucc n => .negSucc (m &&& n)

def inter : Int → Int → Int
  | .ofNat m, .ofNat n => .ofNat (m &&& n)
  | .ofNat m, .negSucc n => .ofNat (m - (m &&& n))
  | .negSucc m, .ofNat n => .ofNat (n - (n &&& m))
  | .negSucc m, .negSucc n => .negSucc (m ||| n)

theorem union_comm (a b : Int) : union a b = union b a := by
  cases a <;> cases b <;> simp [union, Nat.or_comm, Nat.and_comm]

theorem inter_comm (a b : Int) : inter a b = inter b a := by
  cases a <;> cases b <;> simp [inter, Nat.or_comm, Nat.and_comm]

end FlowTyping.Bits
