import FlowTyping.Closure
import FlowTyping.Document
import FlowTyping.Table

namespace FlowTyping

/-- Where a constraint comes from. -/
inductive Tag where
  | plain (value : Document)
  | field (name : String)
  | param (position : Int)
  | returned
  | location (unit : String) (line : Int)

def Tag.shown : Tag → String
  | .plain value => value.plain
  | .field name => "field " ++ name
  | .param position => "parameter " ++ toString position
  | .returned => "return value"
  | .location unit line => unit ++ ":" ++ toString line

/-- Whether a tag cannot be shown, because of the digits of a number in it. -/
def Tag.isLong : Tag → Bool
  | .plain value => value.isLong
  | .param position => Text.isTooLong position
  | .location _ line => Text.isTooLong line
  | _ => false

/-- Tags of constraints, in the order in which the constraints were first tagged. -/
structure TagMap where
  entries : Table Flow Tag

namespace TagMap

def empty : TagMap := ⟨[]⟩

instance : Inhabited TagMap := ⟨empty⟩

def get? (tags : TagMap) (c : Flow) : Option Tag := Table.find? tags.entries c

/-- Tags a constraint; the last tag wins. -/
def add (tags : TagMap) (c : Flow) (tag : Tag) : TagMap := ⟨Table.put c tag tags.entries⟩

/-- The tags of both maps; where both have one, the second wins. -/
def union (a b : TagMap) : TagMap := ⟨Table.putAll b.entries a.entries⟩

def describe (tags : TagMap) : String := "TagMap(" ++ toString tags.entries.length ++ " entries)"

end TagMap

def shownTag : Option Tag → String
  | some tag => tag.shown
  | none => "None"

/-- A flow that the order forbids, with where it starts and ends. -/
structure FlowConflict where
  lower : Literal
  lowerTag : Option Tag
  upper : Literal
  upperTag : Option Tag

def FlowConflict.shown (c : FlowConflict) : String :=
  c.lower.shown ++ " (from " ++ shownTag c.lowerTag ++ ") may flow into " ++
    c.upper.shown ++ " (from " ++ shownTag c.upperTag ++ ")"

/-- Whether one of the tags cannot be shown. -/
def FlowConflict.isLong (c : FlowConflict) : Bool :=
  c.lowerTag.any Tag.isLong || c.upperTag.any Tag.isLong

/-- The conflict of a forbidden flow: its ends with the tags of the first and the last
constraint of its chain. -/
def LiteralFlow.conflict (tags : TagMap) (f : LiteralFlow) : FlowConflict :=
  { lower := f.lower
    lowerTag := f.chain.head?.bind tags.get?
    upper := f.upper
    upperTag := f.chain.getLast?.bind tags.get? }

/-- The conflicts of a closure; none if it has a solution. -/
def Closure.conflicts (c : Closure) (tags : TagMap) : List FlowConflict :=
  if c.isSat then [] else c.forbidden.map (LiteralFlow.conflict tags)

/-- The conflicts of a set, by source and then by distance. -/
def ConstraintSet.conflicts (K : LevelLattice Level) (cs : ConstraintSet) (tags : TagMap) :
    List FlowConflict :=
  (Closure.ofSet K cs).conflicts tags

end FlowTyping
