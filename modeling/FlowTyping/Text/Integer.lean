import FlowTyping.Text.Blank
import FlowTyping.Text.Digit
import FlowTyping.Text.Split

/-!
Integers written in decimal: white space around, a sign, and digits of any script between
which single underscores may stand. White space is here what Unicode counts as such, without
the four information separators.
-/

namespace FlowTyping.Text

inductive IntegerProblem where
  | malformed
  | tooLong (refusal : TooManyDigits)
  deriving DecidableEq, Repr

def isSeparator (c : Char) : Bool := decide (0x1C ≤ c.toNat) && decide (c.toNat ≤ 0x1F)

/-- Whether a character may stand around an integer. -/
def isPadding (c : Char) : Bool := isBlank c && !isSeparator c

/-- The number written at the front of a text by digits with single underscores between
them, and the text behind it. Too many digits are refused whatever follows them. -/
def readGrouped (cs : List Char) : Except IntegerProblem (Nat × List Char) :=
  let written := cs.takeWhile (fun c => isDigit c || c == '_')
  let groups := splitAtChar '_' written
  if groups.any List.isEmpty then .error .malformed
  else
    match withinLimit groups.flatten.length ((readNat? groups.flatten).getD 0) with
    | .ok value => .ok (value, cs.drop written.length)
    | .error refusal => .error (.tooLong refusal)

/-- The sign at the front of a text, and the text behind it. -/
def readSign : List Char → Bool × List Char
  | '-' :: rest => (true, rest)
  | '+' :: rest => (false, rest)
  | cs => (false, cs)

def readInt (text : String) : Except IntegerProblem Int := do
  let (negative, digits) := readSign (text.toList.dropWhile isPadding)
  let (value, rest) ← readGrouped digits
  if rest.all isPadding then
    pure (if negative then -Int.ofNat value else Int.ofNat value)
  else .error .malformed

end FlowTyping.Text
