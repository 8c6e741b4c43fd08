import FlowTyping.Decimal.Shown
import FlowTyping.Document
import FlowTyping.Text.Digit
import FlowTyping.Text.Integer

/-!
Reading JSON. The reader takes one value from the front of a text, and the text is accepted
when only white space remains; otherwise the first problem met from the left is reported.
Of any two steps of the reader, one takes a character, so twice the length of the text bounds
the number of steps.

The reader has a fixed number of levels to go down. A list or an object takes one for as long
as it is being read. A special number takes one for a moment and the report of a problem three,
except that the lack of a value and an overlong number are reported without any.
-/

namespace FlowTyping.Json

inductive Problem where
  | expectingValue
  | expectingName
  | expectingColon
  | expectingComma
  | extraData
  | unterminatedString
  | invalidEscape
  | invalidCodeEscape
  | controlCharacter
  | byteOrderMark
  /-- A whole number has more digits than are read. -/
  | tooManyDigits (refusal : Text.TooManyDigits)
  /-- Lists and objects stand inside one another more often than is read. -/
  | tooDeep
  deriving DecidableEq, Repr

def Problem.message : Problem → String
  | .expectingValue => "Expecting value"
  | .expectingName => "Expecting property name enclosed in double quotes"
  | .expectingColon => "Expecting ':' delimiter"
  | .expectingComma => "Expecting ',' delimiter"
  | .extraData => "Extra data"
  | .unterminatedString => "Unterminated string starting at"
  | .invalidEscape => "Invalid \\escape"
  | .invalidCodeEscape => "Invalid \\uXXXX escape"
  | .controlCharacter => "Invalid control character at"
  | .byteOrderMark => "Unexpected UTF-8 BOM (decode using utf-8-sig)"
  | .tooManyDigits refusal => refusal.message
  | .tooDeep => "maximum recursion depth exceeded"

def isSpace (c : Char) : Bool := c == ' ' || c == '\t' || c == '\n' || c == '\r'

def skipSpace (cs : List Char) : List Char := cs.dropWhile isSpace

def hexValue? (c : Char) : Option Nat :=
  if '0' ≤ c ∧ c ≤ '9' then some (c.toNat - '0'.toNat)
  else if 'a' ≤ c ∧ c ≤ 'f' then some (c.toNat - 'a'.toNat + 10)
  else if 'A' ≤ c ∧ c ≤ 'F' then some (c.toNat - 'A'.toNat + 10)
  else none

/-- The code written by four digits in base sixteen. -/
def codeUnit? (a b c d : Char) : Option Nat := do
  let a ← hexValue? a
  let b ← hexValue? b
  let c ← hexValue? c
  let d ← hexValue? d
  pure (((a * 16 + b) * 16 + c) * 16 + d)

/-- The character behind a backslash, if it is one of the short escapes. -/
def shortEscape? : Char → Option Char
  | '"' => some '"'
  | '\\' => some '\\'
  | '/' => some '/'
  | 'b' => some '\x08'
  | 'f' => some '\x0c'
  | 'n' => some '\n'
  | 'r' => some '\r'
  | 't' => some '\t'
  | _ => none

def isPair (high low : Nat) : Bool :=
  decide (0xD800 ≤ high) && decide (high ≤ 0xDBFF) && decide (0xDC00 ≤ low) &&
    decide (low ≤ 0xDFFF)

def pairCode (high low : Nat) : Nat := 0x10000 + (high - 0xD800) * 0x400 + (low - 0xDC00)

/-- Reads a string from behind its opening quote: its characters and the text after the
closing quote. -/
def readString : List Char → Except Problem (List Char × List Char)
  | [] => .error .unterminatedString
  | '"' :: rest => .ok ([], rest)
  | ['\\'] => .error .unterminatedString
  | '\\' :: 'u' :: a :: b :: c :: d :: '\\' :: 'u' :: e :: f :: g :: h :: rest =>
    match codeUnit? a b c d, codeUnit? e f g h with
    | some high, some low =>
      if rest = [] then .error .invalidCodeEscape
      else if isPair high low then
        (readString rest).map (fun r => (Text.charsOf (pairCode high low) ++ r.1, r.2))
      else
        (readString ('\\' :: 'u' :: e :: f :: g :: h :: rest)).map
          (fun r => (Text.charsOf high ++ r.1, r.2))
    | some unit, none =>
      (readString ('\\' :: 'u' :: e :: f :: g :: h :: rest)).map
        (fun r => (Text.charsOf unit ++ r.1, r.2))
    | none, _ => .error .invalidCodeEscape
  | '\\' :: 'u' :: a :: b :: c :: d :: next :: rest =>
    match codeUnit? a b c d with
    | some unit => (readString (next :: rest)).map (fun r => (Text.charsOf unit ++ r.1, r.2))
    | none => .error .invalidCodeEscape
  | '\\' :: 'u' :: _ => .error .invalidCodeEscape
  | '\\' :: c :: rest =>
    match shortEscape? c with
    | some escaped => (readString rest).map (fun r => (escaped :: r.1, r.2))
    | none => .error .invalidEscape
  | c :: rest =>
    if c.toNat < 0x20 then .error .controlCharacter
    else (readString rest).map (fun r => (c :: r.1, r.2))

/-- The digits at the front of a text and what follows them. -/
def spanDigits (cs : List Char) : List Char × List Char := cs.span Char.isDigit

/-- The fraction at the front of a text, with its point, and what follows it. -/
def spanFraction : List Char → List Char × List Char
  | '.' :: rest =>
    match spanDigits rest with
    | ([], _) => ([], '.' :: rest)
    | (digits, after) => ('.' :: digits, after)
  | cs => ([], cs)

/-- The exponent at the front of a text, with its mark, and what follows it. -/
def spanExponent : List Char → List Char × List Char
  | cs@(mark :: sign :: rest) =>
    if mark = 'e' ∨ mark = 'E' then
      if sign = '+' ∨ sign = '-' then
        match spanDigits rest with
        | ([], _) => ([], cs)
        | (digits, after) => (mark :: sign :: digits, after)
      else
        match spanDigits (sign :: rest) with
        | ([], _) => ([], cs)
        | (digits, after) => (mark :: digits, after)
    else ([], cs)
  | cs => ([], cs)

/-- The whole part of a number at the front of a text: a zero alone, or digits that do not
start with one. -/
def spanWhole : List Char → List Char × List Char
  | '0' :: rest => (['0'], rest)
  | cs => spanDigits cs

def natOfDigits (digits : List Char) : Nat :=
  digits.foldl (fun value c => 10 * value + (c.toNat - '0'.toNat)) 0

def exponentOf : List Char → Int
  | _ :: '-' :: digits => -Int.ofNat (natOfDigits digits)
  | _ :: '+' :: digits => Int.ofNat (natOfDigits digits)
  | _ :: digits => Int.ofNat (natOfDigits digits)
  | [] => 0

/-- The decimal written by its whole part, its fraction and its exponent. -/
def decimalOf (whole fraction exponent : List Char) : Decimal :=
  let places := fraction.drop 1
  ⟨natOfDigits (whole ++ places), exponentOf exponent - Int.ofNat places.length⟩

/-- Reads a number behind its sign. -/
def readUnsigned (negative : Bool) (cs : List Char) : Except Problem (Document × List Char) :=
  match spanWhole cs with
  | ([], _) => .error .expectingValue
  | (whole, afterWhole) =>
    let (fraction, afterFraction) := spanFraction afterWhole
    let (exponent, rest) := spanExponent afterFraction
    if fraction.isEmpty && exponent.isEmpty then
      match Text.withinLimit whole.length (Int.ofNat (natOfDigits whole)) with
      | .ok value => .ok (.int (if negative then -value else value), rest)
      | .error refusal => .error (.tooManyDigits refusal)
    else .ok (.decimal (Decimal.shown negative (decimalOf whole fraction exponent)), rest)

/-- The whole number that is left, without its fraction, of a number as it is shown; none for
the special numbers. -/
def wholeOf? (shown : String) : Option Int :=
  let (negative, cs) := Text.readSign shown.toList
  match spanWhole cs with
  | ([], _) => none
  | (whole, afterWhole) =>
    let (fraction, afterFraction) := spanFraction afterWhole
    let size := (decimalOf whole fraction (spanExponent afterFraction).1).nearest?
    size.map (fun b => if negative then -Int.ofNat b.whole else Int.ofNat b.whole)

/-- How often lists and objects may stand inside one another. -/
def depthLimit : Nat := 990

/-- The levels that the report of a problem takes. -/
def reportDepth : Nat := 3

/-- A problem as it is reported with some levels left. -/
def Problem.reportedAt (depth : Nat) (problem : Problem) : Problem :=
  if depth < reportDepth then .tooDeep else problem

/-- A special number, which takes one of the levels left. -/
def special (depth : Nat) (shown : String) (rest : List Char) :
    Except Problem (Document × List Char) :=
  if depth = 0 then .error .tooDeep else .ok (.decimal shown, rest)

/-- Reads a number or one of the words for special values, with some levels left. -/
def readScalar (depth : Nat) : List Char → Except Problem (Document × List Char)
  | 'n' :: 'u' :: 'l' :: 'l' :: rest => .ok (.null, rest)
  | 't' :: 'r' :: 'u' :: 'e' :: rest => .ok (.bool true, rest)
  | 'f' :: 'a' :: 'l' :: 's' :: 'e' :: rest => .ok (.bool false, rest)
  | 'N' :: 'a' :: 'N' :: rest => special depth "nan" rest
  | 'I' :: 'n' :: 'f' :: 'i' :: 'n' :: 'i' :: 't' :: 'y' :: rest => special depth "inf" rest
  | '-' :: 'I' :: 'n' :: 'f' :: 'i' :: 'n' :: 'i' :: 't' :: 'y' :: rest =>
    special depth "-inf" rest
  | '-' :: rest => readUnsigned true rest
  | cs => readUnsigned false cs

/-- Reads a string from behind its opening quote, with some levels left. -/
def readStringAt (depth : Nat) (cs : List Char) : Except Problem (String × List Char) :=
  match readString cs with
  | .ok (chars, rest) => .ok (String.ofList chars, rest)
  | .error problem => .error (problem.reportedAt depth)

mutual

/-- Reads one value in at most `steps` steps, with `depth` levels left. -/
def readValue :
    (steps depth : Nat) → List Char → Except Problem (Document × List Char)
  | 0, _, _ => .error .expectingValue
  | steps + 1, depth, cs =>
    match cs with
    | '"' :: rest => (readStringAt depth rest).map (fun r => (.text r.1, r.2))
    | '[' :: rest =>
      match depth with
      | 0 => .error .tooDeep
      | depth + 1 =>
        match skipSpace rest with
        | ']' :: after => .ok (.list [], after)
        | items => (readItems steps depth items).map (fun r => (.list r.1, r.2))
    | '\x7b' :: rest =>
      match depth with
      | 0 => .error .tooDeep
      | depth + 1 =>
        match skipSpace rest with
        | '\x7d' :: after => .ok (.mapping [], after)
        | members =>
          (readMembers steps depth members).map (fun r => (Document.ofEntries r.1, r.2))
    | _ => readScalar depth cs

/-- Reads the items of a list that has at least one, up to the closing bracket. -/
def readItems :
    (steps depth : Nat) → List Char → Except Problem (List Document × List Char)
  | 0, _, _ => .error .expectingValue
  | steps + 1, depth, cs => do
    let (item, rest) ← readValue steps depth cs
    match skipSpace rest with
    | ']' :: after => .ok ([item], after)
    | ',' :: after =>
      let (items, rest) ← readItems steps depth (skipSpace after)
      .ok (item :: items, rest)
    | _ => .error (Problem.expectingComma.reportedAt depth)

/-- Reads the members of an object that has at least one, up to the closing brace. -/
def readMembers :
    (steps depth : Nat) → List Char → Except Problem (List (Document × Document) × List Char)
  | 0, _, _ => .error .expectingName
  | steps + 1, depth, cs =>
    match cs with
    | '"' :: rest => do
      let (name, rest) ← readStringAt depth rest
      match skipSpace rest with
      | ':' :: rest =>
        let (value, rest) ← readValue steps depth (skipSpace rest)
        let entry := (Document.text name, value)
        match skipSpace rest with
        | '\x7d' :: after => .ok ([entry], after)
        | ',' :: after =>
          let (entries, rest) ← readMembers steps depth (skipSpace after)
          .ok (entry :: entries, rest)
        | _ => .error (Problem.expectingComma.reportedAt depth)
      | _ => .error (Problem.expectingColon.reportedAt depth)
    | _ => .error (Problem.expectingName.reportedAt depth)

end

def read (text : String) : Except Problem Document :=
  match text.toList with
  | '\uFEFF' :: _ => .error .byteOrderMark
  | cs => do
    let (value, rest) ← readValue (2 * cs.length + 2) depthLimit (skipSpace cs)
    if (skipSpace rest).isEmpty then .ok value else .error .extraData

end FlowTyping.Json
