import FlowTyping.KeyOrder
import FlowTyping.SortedSet
import FlowTyping.Text.Digit

/-!
Security levels and literals. A level is one of the two points, a set of principals or a
plain name; which of them a domain knows is the domain's affair. A literal is a level or
the dynamic marker `?`, which is no level of any domain.

Levels and literals are listed in a fixed order that no domain influences: by their shape,
then by the text that shows them. The order is total and tells different levels apart.
-/

namespace FlowTyping

abbrev PrincipalSet := SortedSet String compare

/-- A value that can stand for a security level. -/
inductive Level where
  | low
  | high
  | principals (members : PrincipalSet)
  | name (text : String)
  /-- A bare number, which no domain has among its levels. -/
  | number (value : Int)
  deriving DecidableEq

namespace Level

instance : Inhabited Level := ⟨.low⟩

/-- The text that shows a level: principals stand in alphabetical order. -/
def shown : Level → String
  | .low => "LOW"
  | .high => "HIGH"
  | .principals members => "\x7b" ++ ",".intercalate members.toList ++ "\x7d"
  | .name text => text
  | .number value => toString value

/-- The text that orders the levels of one shape. -/
def sortText : Level → String
  | .principals members => ",".intercalate members.toList
  | other => other.shown

/-- The word for a level's shape. -/
def shape : Level → String
  | .low => "LowHighLevel"
  | .high => "LowHighLevel"
  | .principals _ => "frozenset"
  | .name _ => "str"
  | .number _ => "int"

def members : Level → List String
  | .principals members => members.toList
  | _ => []

def value : Level → Int
  | .number value => value
  | _ => 0

/-- Levels by shape, then by their text; sets whose texts coincide by their members. -/
def order : Level → Level → Ordering :=
  compareLex (compareOn shape)
    (compareLex (compareOn sortText) (compareLex (compareOn members) (compareOn value)))

instance : Ord Level := ⟨order⟩

instance : Std.TransOrd Level := by
  show Std.TransCmp order
  unfold order
  infer_instance

theorem keys_injective :
    Function.Injective (fun l : Level => (l.shape, l.sortText, l.members, l.value)) := by
  intro a b same
  cases a <;> cases b <;> simp_all [shape, sortText, shown, members, value]
  rename_i left right
  obtain ⟨left, sortedLeft⟩ := left
  obtain ⟨right, sortedRight⟩ := right
  simp_all

instance : Std.LawfulEqOrd Level :=
  ComparesBy.lawful (.lex (.on shape) (.lex (.on sortText) (.lex (.on members) (.on value))))
    keys_injective

end Level

/-- A literal of the constraint language: the dynamic marker or a level. -/
inductive Literal where
  | dyn
  | level (level : Level)
  deriving DecidableEq

namespace Literal

instance : Inhabited Literal := ⟨.dyn⟩

/-- The text that shows a literal. -/
def shown : Literal → String
  | .dyn => "?"
  | .level l => l.shown

/-- The text that shows a literal, unless it is a number with too many digits. -/
def shown? : Literal → Except Text.TooManyDigits String
  | .level (.number value) => Text.writeInt value
  | literal => .ok literal.shown

/-- Zero for the dynamic marker, one for levels. -/
def rank : Literal → Nat
  | .dyn => 0
  | .level _ => 1

/-- The level of a literal; for the dynamic marker an arbitrary one. -/
def levelPart : Literal → Level
  | .dyn => .low
  | .level l => l

/-- The dynamic marker first, then the levels. -/
def order : Literal → Literal → Ordering :=
  compareLex (compareOn rank) (compareOn levelPart)

instance : Ord Literal := ⟨order⟩

instance : Std.TransOrd Literal := by
  show Std.TransCmp order
  unfold order
  infer_instance

theorem keys_injective : Function.Injective (fun l : Literal => (l.rank, l.levelPart)) := by
  intro a b same
  cases a <;> cases b <;> simp_all [rank, levelPart]

instance : Std.LawfulEqOrd Literal :=
  ComparesBy.lawful (.lex (.on rank) (.on levelPart)) keys_injective

end Literal

end FlowTyping
