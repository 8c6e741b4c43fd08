import FlowTyping.Decimal.Shortest

namespace FlowTyping.Decimal

/-- The digits of a decimal without zeros at their end. -/
def significantDigits (d : Decimal) : List Char :=
  ((Nat.toDigits 10 d.digits).reverse.dropWhile (· == '0')).reverse

/-- Digits with the point behind as many of them as `point` says. -/
def positional (digits : List Char) (point : Int) : List Char :=
  if point ≤ 0 then '0' :: '.' :: (List.replicate (-point).toNat '0' ++ digits)
  else
    let whole := point.toNat
    if digits.length ≤ whole then
      digits ++ List.replicate (whole - digits.length) '0' ++ ['.', '0']
    else digits.take whole ++ '.' :: digits.drop whole

/-- The exponent of a number, with its sign and at least two digits. -/
def exponentText (exponent : Int) : List Char :=
  let digits := Nat.toDigits 10 exponent.natAbs
  (if exponent < 0 then '-' else '+') :: (List.replicate (2 - digits.length) '0' ++ digits)

def scientific (digits : List Char) (point : Int) : List Char :=
  let fraction := match digits.drop 1 with
    | [] => []
    | rest => '.' :: rest
  digits.take 1 ++ fraction ++ 'e' :: exponentText (point - 1)

/-- How the shortest decimal of a number is laid out. -/
def layout (d : Decimal) : List Char :=
  let digits := d.significantDigits
  if -4 < d.magnitude ∧ d.magnitude ≤ 16 then positional digits d.magnitude
  else scientific digits d.magnitude

def shown (negative : Bool) (d : Decimal) : String :=
  let size := match d.nearest? with
    | none => ['i', 'n', 'f']
    | some b => if b.significand = 0 then ['0', '.', '0'] else layout b.shortest
  String.ofList (if negative then '-' :: size else size)

end FlowTyping.Decimal
