/-!
Decimal digits of every script, and the numbers they write. Ten consecutive code points, the
first of them the zero, make up each script's digits, so the table lists the zeros only. A
number with more digits than a fixed limit is neither read nor written.
-/

namespace FlowTyping.Text

def zeroDigits : List Nat :=
  [
   0x30, 0x660, 0x6F0, 0x7C0, 0x966, 0x9E6, 0xA66, 0xAE6, 0xB66, 0xBE6, 0xC66, 0xCE6, 0xD66,
   0xDE6, 0xE50, 0xED0, 0xF20, 0x1040, 0x1090, 0x17E0, 0x1810, 0x1946, 0x19D0, 0x1A80, 0x1A90,
   0x1B50, 0x1BB0, 0x1C40, 0x1C50, 0xA620, 0xA8D0, 0xA900, 0xA9D0, 0xA9F0, 0xAA50, 0xABF0,
   0xFF10, 0x104A0, 0x10D30, 0x11066, 0x110F0, 0x11136, 0x111D0, 0x112F0, 0x11450, 0x114D0,
   0x11650, 0x116C0, 0x11730, 0x118E0, 0x11950, 0x11C50, 0x11D50, 0x11DA0, 0x16A60, 0x16AC0,
   0x16B50, 0x1D7CE, 0x1D7D8, 0x1D7E2, 0x1D7EC, 0x1D7F6, 0x1E140, 0x1E2F0, 0x1E950, 0x1FBF0]

def digitValue? (c : Char) : Option Nat :=
  (zeroDigits.find? (fun start => decide (start ≤ c.toNat) && decide (c.toNat < start + 10))).map
    (fun start => c.toNat - start)

def isDigit (c : Char) : Bool := (digitValue? c).isSome

/-- The number written by digits, most significant first, after those already read. -/
def readDigits : Nat → List Char → Option Nat
  | value, [] => some value
  | value, c :: rest =>
    match digitValue? c with
    | some digit => readDigits (10 * value + digit) rest
    | none => none

/-- The number written by a non-empty run of decimal digits. -/
def readNat? : List Char → Option Nat
  | [] => none
  | cs => readDigits 0 cs

/-- The greatest number of digits with which a number is read or written. -/
def digitLimit : Nat := 4300

/-- A number has more digits than are read or written. -/
structure TooManyDigits where
  /-- How many it has, if they were counted. -/
  count : Option Nat
  deriving DecidableEq, Repr

def TooManyDigits.message (refusal : TooManyDigits) : String :=
  let counted := match refusal.count with
    | some count => ": value has " ++ toString count ++ " digits"
    | none => ""
  "Exceeds the limit (" ++ toString digitLimit ++ " digits) for integer string conversion" ++
    counted ++ "; use sys.set_int_max_str_digits() to increase the limit"

/-- The value that some number of digits writes, unless these are too many to be read. -/
@[macro_inline]
def withinLimit {α : Type} (count : Nat) (value : α) : Except TooManyDigits α :=
  if count ≤ digitLimit then .ok value else .error ⟨some count⟩

/-- The least number with more digits than some. -/
def firstLonger (count : Nat) : Nat := Nat.pow 10 count

/-- Whether a number has too many digits to be written. -/
def isTooLong (value : Int) : Bool := decide (firstLonger digitLimit ≤ value.natAbs)

theorem isTooLong_ofNat {number : Nat} (long : firstLonger digitLimit ≤ number) :
    isTooLong (Int.ofNat number) = true :=
  decide_eq_true long

/-- The text of a number, unless it has too many digits to be written. -/
def writeInt (value : Int) : Except TooManyDigits String :=
  if value.natAbs < firstLonger digitLimit then .ok (toString value) else .error ⟨none⟩

end FlowTyping.Text
