import FlowTyping.Document

namespace FlowTyping.Json

structure Style where
  /-- What a line starts with for each level of nesting; without it all stands on one line. -/
  indent : Option String := none
  /-- Whether the members of objects are sorted by name. -/
  sortNames : Bool := false
  /-- Whether characters outside the printable ASCII range are written by their codes. -/
  asciiOnly : Bool := true

/-- A code unit of sixteen bits, written by four digits. -/
def unitEscape (unit : Nat) : List Char := '\\' :: 'u' :: Text.hexDigits 4 unit

/-- The number of a code point, as a surrogate pair where it needs two units. -/
def codeEscape (code : Nat) : List Char :=
  if code < 0x10000 then unitEscape code
  else
    let offset := code - 0x10000
    unitEscape (0xD800 + offset / 0x400) ++ unitEscape (0xDC00 + offset % 0x400)

/-- How one code point is written inside a string. -/
def stringPoint (asciiOnly : Bool) (code : Nat) : List Char :=
  let c := Char.ofNat code
  if c = '"' then ['\\', '"']
  else if c = '\\' then ['\\', '\\']
  else if c = '\n' then ['\\', 'n']
  else if c = '\r' then ['\\', 'r']
  else if c = '\t' then ['\\', 't']
  else if c = '\x08' then ['\\', 'b']
  else if c = '\x0c' then ['\\', 'f']
  else if code < 0x20 ∨ (asciiOnly ∧ 0x7F ≤ code) then codeEscape code
  else Text.charsOf code

def writeString (asciiOnly : Bool) (text : String) : String :=
  String.ofList (['"'] ++ (Text.codePoints text).flatMap (stringPoint asciiOnly) ++ ['"'])

/-- The line break in front of an item at a depth, and what the line starts with. -/
def lineBreak (indent : String) (depth : Nat) : String :=
  "\n" ++ String.join (List.replicate depth indent)

/-- Items between an opening and a closing mark, at a depth. -/
def writeGroup (style : Style) (depth : Nat) (opening closing : String) (items : List String) :
    String :=
  if items.isEmpty then opening ++ closing
  else
    match style.indent with
    | none => opening ++ ", ".intercalate items ++ closing
    | some indent =>
      opening ++ lineBreak indent (depth + 1) ++
        ("," ++ lineBreak indent (depth + 1)).intercalate items ++
        lineBreak indent depth ++ closing

def orderMembers (style : Style) (members : List (String × String)) : List (String × String) :=
  if style.sortNames then members.mergeSort (fun a b => decide (a.1 ≤ b.1)) else members

mutual

/-- A value at a depth of nesting. -/
def writeAt (style : Style) (depth : Nat) : Document → String
  | .null => "null"
  | .bool true => "true"
  | .bool false => "false"
  | .int n => toString n
  | .decimal shown => shown
  | .text value => writeString style.asciiOnly value
  | .list items => writeGroup style depth "[" "]" (writeItems style (depth + 1) items)
  | .mapping entries =>
    let members := orderMembers style (writeMembers style (depth + 1) entries)
    writeGroup style depth "\x7b" "\x7d"
      (members.map (fun m => writeString style.asciiOnly m.1 ++ ": " ++ m.2))
  | .pair first second =>
    writeGroup style depth "[" "]"
      [writeAt style (depth + 1) first, writeAt style (depth + 1) second]
  -- JSON has no form for the rest, which no signature holds.
  | other => writeString style.asciiOnly other.plain

def writeItems (style : Style) (depth : Nat) : List Document → List String
  | [] => []
  | item :: rest => writeAt style depth item :: writeItems style depth rest

def writeMembers (style : Style) (depth : Nat) : List (Document × Document) → List (String × String)
  | [] => []
  | (key, value) :: rest =>
    (key.plain, writeAt style depth value) :: writeMembers style depth rest

end

def write (style : Style) (document : Document) : String := writeAt style 0 document

end FlowTyping.Json
