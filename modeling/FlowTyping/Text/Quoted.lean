import FlowTyping.Text.CodePoint
import FlowTyping.Text.Printable

namespace FlowTyping.Text

/-- The digits of a number in base sixteen, filled up with zeros to a width. -/
def hexDigits (width code : Nat) : List Char :=
  let digits := Nat.toDigits 16 code
  List.replicate (width - digits.length) '0' ++ digits

def quoteFor (cs : List Char) : Char :=
  if cs.contains '\'' && !cs.contains '"' then '"' else '\''

/-- The number of a code point, behind a letter that tells its width. -/
def numbered (code : Nat) : List Char :=
  if code < 0x100 then '\\' :: 'x' :: hexDigits 2 code
  else if code < 0x10000 then '\\' :: 'u' :: hexDigits 4 code
  else '\\' :: 'U' :: hexDigits 8 code

/-- How one code point is written between quotes. -/
def quotedPoint (quote : Char) (code : Nat) : List Char :=
  let c := Char.ofNat code
  if c = quote ∨ c = '\\' then ['\\', c]
  else if c = '\n' then ['\\', 'n']
  else if c = '\r' then ['\\', 'r']
  else if c = '\t' then ['\\', 't']
  else if isPrintable c then [c]
  else numbered code

def quoted (text : String) : String :=
  let quote := quoteFor text.toList
  String.ofList ([quote] ++ (codePoints text).flatMap (quotedPoint quote) ++ [quote])

/-- Bytes between quotes; those that are no printable ASCII characters by their numbers. -/
def quotedBytes (bytes : List UInt8) : String :=
  let quote := quoteFor (bytes.map (fun byte => Char.ofNat byte.toNat))
  String.ofList (['b', quote] ++ bytes.flatMap (fun byte =>
    if byte < 0x7F then quotedPoint quote byte.toNat else numbered byte.toNat) ++ [quote])

def quotedList (texts : List String) : String :=
  "[" ++ ", ".intercalate (texts.map quoted) ++ "]"

end FlowTyping.Text
