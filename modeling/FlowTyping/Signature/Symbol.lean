import FlowTyping.Level

/-!
Symbols of signatures. A signature talks about the boundary of its unit only: parameters by
position, the returned value, and literals. Literals come first, then parameters, then the
returned value. A position of any size is shown; the limit on the digits of numbers is kept where
signatures are stored and read.
-/

namespace FlowTyping

/-- What a signature talks about. -/
inductive Symbol where
  | literal (value : Literal)
  | param (position : Int)
  | ret
  deriving DecidableEq

namespace Symbol

instance : Inhabited Symbol := ⟨.ret⟩

def rank : Symbol → Nat
  | .literal _ => 0
  | .param _ => 1
  | .ret => 2

/-- The literal of a symbol; for others an arbitrary one. -/
def literalPart : Symbol → Literal
  | .literal value => value
  | _ => .dyn

/-- The position of a parameter; for others an arbitrary one. -/
def position : Symbol → Int
  | .param position => position
  | _ => 0

/-- Literals, then parameters, then the returned value. -/
def order : Symbol → Symbol → Ordering :=
  compareLex (compareOn rank) (compareLex (compareOn literalPart) (compareOn position))

instance : Ord Symbol := ⟨order⟩

instance : Std.TransOrd Symbol := by
  show Std.TransCmp order
  unfold order
  infer_instance

theorem keys_injective :
    Function.Injective (fun s : Symbol => (s.rank, s.literalPart, s.position)) := by
  intro a b same
  cases a <;> cases b <;> simp_all [rank, literalPart, position]

instance : Std.LawfulEqOrd Symbol :=
  ComparesBy.lawful (.lex (.on rank) (.lex (.on literalPart) (.on position))) keys_injective

/-- How a symbol is written, given how literals are. -/
def written (literal : Literal → String) : Symbol → String
  | .literal value => literal value
  | .param position => "@" ++ toString position
  | .ret => "@return"

def shown : Symbol → String := written Literal.shown

end Symbol

end FlowTyping
