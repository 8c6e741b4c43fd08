import FlowTyping.Constraint
import FlowTyping.Text.Blank

/-!
Cutting the text of a constraint into its left side, its operator and its right side. The
left side is as short as it can be, so the text is cut at the first operator behind which a
right side can follow. Neither side starts or ends with a blank or holds a line break.
-/

namespace FlowTyping.Constraint

/-- The operator at the front of a text and what follows it. -/
def operatorAt? : List Char → Option (Kind × List Char)
  | '<' :: '=' :: rest => some (.flow, rest)
  | '=' :: '>' :: rest => some (.implies, rest)
  | '~' :: rest => some (.compatible, rest)
  | _ => none

/-- The right side that the text behind an operator makes: all but the blanks around it. -/
def rightSide? (cs : List Char) : Option (List Char) :=
  let body := Text.stripChars cs
  if body.isEmpty || body.contains '\n' then none else some body

/-- The operator and the right side, if the text continues with them. -/
def continuation? (cs : List Char) : Option (Kind × List Char) :=
  match operatorAt? (Text.dropBlanks cs) with
  | some (kind, rest) => (rightSide? rest).map (fun right => (kind, right))
  | none => none

/-- Cuts a text whose left side starts with the characters already read, in reverse. -/
def splitAfter (before : List Char) : List Char → Option (List Char × Kind × List Char)
  | [] => none
  | c :: rest =>
    match continuation? (c :: rest) with
    | some (kind, right) => some (before.reverse, kind, right)
    | none => if c = '\n' then none else splitAfter (c :: before) rest

/-- The left side, the operator and the right side of a text. -/
def splitChars? (cs : List Char) : Option (List Char × Kind × List Char) :=
  match Text.dropBlanks cs with
  | [] => none
  | c :: rest => splitAfter [c] rest

def split? (text : String) : Option (String × Kind × String) :=
  (splitChars? text.toList).map
    (fun parts => (String.ofList parts.1, parts.2.1, String.ofList parts.2.2))

end FlowTyping.Constraint
