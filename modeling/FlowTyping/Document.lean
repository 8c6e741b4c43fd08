import FlowTyping.Document.Moment
import FlowTyping.Text.Digit
import FlowTyping.Text.Quoted

/-!
Documents: the values that configuration files, unit files and stored signatures are made
of. A mapping keeps the order in which its keys were first written; a key written again
replaces the value and keeps its place. Files can also hold bytes, days, moments, sets and
pairs, and values that hold themselves; stored signatures cannot. Numbers with too many digits
cannot be written, nor can what holds one. No bound is set to how deep values stand inside one
another, nor to how much there is of them.
-/

namespace FlowTyping

/-- What can hold a value that it is itself a part of. -/
inductive Holder where
  | list
  | mapping
  | pair
  deriving DecidableEq, Repr

/-- A value of a configuration, unit or signature file. -/
inductive Document where
  | null
  | bool (value : Bool)
  | int (value : Int)
  /-- A number with a fraction or an exponent, as it is shown. -/
  | decimal (shown : String)
  | text (value : String)
  | bytes (value : List UInt8)
  | day (value : Day)
  | moment (value : Moment)
  | list (items : List Document)
  | mapping (entries : List (Document × Document))
  /-- A set, in the order in which it is gone through. -/
  | set (items : List Document)
  | pair (first second : Document)
  /-- A value inside itself. A document that holds itself is written out as far as it is looked
  into; this stands where it is only shown, and shown for the second time. -/
  | again (holder : Holder)

namespace Document

instance : Inhabited Document := ⟨.null⟩

/-- The kind of a value, as messages name it. -/
def kindName : Document → String
  | .null => "NoneType"
  | .bool _ => "bool"
  | .int _ => "int"
  | .decimal _ => "float"
  | .text _ => "str"
  | .bytes _ => "bytes"
  | .day _ => "date"
  | .moment _ => "datetime"
  | .list _ => "list"
  | .mapping _ => "dict"
  | .set _ => "set"
  | .pair _ _ => "tuple"
  | .again .list => "list"
  | .again .mapping => "dict"
  | .again .pair => "tuple"

mutual

/-- A value as messages quote it. -/
def quoted : Document → String
  | .null => "None"
  | .bool true => "True"
  | .bool false => "False"
  | .int n => toString n
  | .decimal shown => shown
  | .text value => Text.quoted value
  | .bytes value => Text.quotedBytes value
  | .day value => value.quoted
  | .moment value => value.quoted
  | .list items => "[" ++ ", ".intercalate (quotedItems items) ++ "]"
  | .mapping entries => "\x7b" ++ ", ".intercalate (quotedEntries entries) ++ "\x7d"
  | .set [] => "set()"
  | .set (item :: rest) =>
    "\x7b" ++ ", ".intercalate (item.quoted :: quotedItems rest) ++ "\x7d"
  | .pair first second => "(" ++ first.quoted ++ ", " ++ second.quoted ++ ")"
  | .again .list => "[...]"
  | .again .mapping => "\x7b...\x7d"
  | .again .pair => "(...)"

def quotedItems : List Document → List String
  | [] => []
  | item :: rest => item.quoted :: quotedItems rest

def quotedEntries : List (Document × Document) → List String
  | [] => []
  | (key, value) :: rest => (key.quoted ++ ": " ++ value.quoted) :: quotedEntries rest

end

/-- A value as plain text: texts, days and moments as they are shown, anything else as it would
be quoted. -/
def plain : Document → String
  | .text value => value
  | .day value => value.shown
  | .moment value => value.shown
  | other => other.quoted

mutual

/-- Whether a value cannot be written, because of the digits of a number in it. -/
def isLong : Document → Bool
  | .int n => Text.isTooLong n
  | .list items => anyLong items
  | .mapping entries => anyEntryLong entries
  | .set items => anyLong items
  | .pair first second => first.isLong || second.isLong
  | _ => false

def anyLong : List Document → Bool
  | [] => false
  | item :: rest => item.isLong || anyLong rest

def anyEntryLong : List (Document × Document) → Bool
  | [] => false
  | (key, value) :: rest => key.isLong || value.isLong || anyEntryLong rest

end

/-- The plain text of a value that can be written. -/
def plain? (document : Document) : Except Text.TooManyDigits String :=
  if document.isLong then .error ⟨none⟩ else .ok document.plain

/-- The plain texts of values up to the first that cannot be written. -/
def texts (documents : List Document) : List String :=
  (documents.takeWhile (fun document => !document.isLong)).map plain

/-- Whether a value counts as given: not null, false, zero or empty. -/
def isGiven : Document → Bool
  | .null => false
  | .bool value => value
  | .int n => n != 0
  | .decimal shown => shown != "0.0" && shown != "-0.0"
  | .text value => value != ""
  | .bytes value => !value.isEmpty
  | .list items => !items.isEmpty
  | .mapping entries => !entries.isEmpty
  | .set items => !items.isEmpty
  | _ => true

/-- The number behind a value that compares like one. -/
def asNumber? : Document → Option Int
  | .int n => some n
  | .bool value => some (if value then 1 else 0)
  | _ => none

/-- Whether two values are the same key of a mapping. -/
def sameKey : Document → Document → Bool
  | .text a, .text b => a == b
  | .null, .null => true
  | .decimal a, .decimal b => a == b
  | .bytes a, .bytes b => a == b
  | .day a, .day b => a == b
  | .moment a, .moment b => a == b
  | a, b =>
    match a.asNumber?, b.asNumber? with
    | some m, some n => m == n
    | _, _ => false

/-- Writes an entry: a key that is there keeps its place and gets the new value. -/
def putEntry (key value : Document) : List (Document × Document) → List (Document × Document)
  | [] => [(key, value)]
  | (there, old) :: rest =>
    if there.sameKey key then (there, value) :: rest else (there, old) :: putEntry key value rest

/-- The mapping that results from writing entries one after the other. -/
def ofEntries (entries : List (Document × Document)) : Document :=
  .mapping (entries.foldl (fun written entry => putEntry entry.1 entry.2 written) [])

def find? (entries : List (Document × Document)) (name : String) : Option Document :=
  (entries.find? (fun entry => entry.1.sameKey (.text name))).map Prod.snd

/-- What a value holds, one after the other: the items of a list or a set, the code points of a
text, the numbers of bytes, the keys of a mapping, both parts of a pair. Other values hold nothing
to go through. -/
def parts? : Document → Option (List Document)
  | .text value => some ((Text.pieces value).map Document.text)
  | .bytes value => some (value.map (fun byte => .int byte.toNat))
  | .list items => some items
  | .mapping entries => some (entries.map Prod.fst)
  | .set items => some items
  | .pair first second => some [first, second]
  | _ => none

end Document

end FlowTyping
