import FlowTyping.Document.Json.Reader
import FlowTyping.Document.Json.Writer

/-!
JSON texts for readers and writers that know characters only. Such a reader would lose half
of a surrogate pair, so the code points that a string holds by stand-ins are put there before
the text is read, and are written by their numbers after a text has been written.
-/

namespace FlowTyping.Json

/-- Whether an escaped unit is the first of a pair with the one that follows it. -/
def startsPair (unit : Nat) : List Char → Bool
  | '\\' :: 'u' :: a :: b :: c :: d :: _ => isPair unit ((codeUnit? a b c d).getD 0)
  | _ => false

/-- The escaped unit of sixteen bits at the front of a text. -/
def escapedUnit? : List Char → Option Nat
  | '\\' :: 'u' :: a :: b :: c :: d :: _ => codeUnit? a b c d
  | _ => none

/-- How much of a text stays as it is: a pair, an escape, or one character. -/
def keptLength (cs : List Char) : Nat :=
  match escapedUnit? cs with
  | some unit => if startsPair unit (cs.drop 6) then 12 else 6
  | none => if cs.head? = some '\\' then 2 else 1

/-- Puts marks and stand-ins into a JSON text, behind what is done already, in reverse. An
escaped unit is replaced if it needs a mark and is not the first of a pair. -/
def markBehind (done : List Char) : List Char → List Char
  | [] => done.reverse
  | c :: rest =>
    let text := c :: rest
    let unit := (escapedUnit? text).getD c.toNat
    let kept := keptLength text
    let written := if Text.isMarked unit && kept < 12 then Text.charsOf unit else text.take kept
    markBehind (written.reverse ++ done) (rest.drop (kept - 1))
  termination_by cs => cs.length

/-- A JSON text with marks and stand-ins for the code points that need them. -/
def withMarks (text : String) : String := String.ofList (markBehind [] text.toList)

/-- A JSON text in which every marked code point is written by its number. -/
def withoutMarks (text : String) : String :=
  String.ofList ((Text.codePoints text).flatMap (fun code =>
    if Text.isMarked code then unitEscape code else [Char.ofNat code]))

end FlowTyping.Json
