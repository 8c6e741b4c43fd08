import FlowTyping.KeyOrder
import FlowTyping.Text.Quoted

/-!
Type variables. A variable is identified by the namespace that issued it, its kind and its
index; how it is shown is no part of it, so two variables are never told apart by a name.
An index of any size is shown: the limit on the digits of numbers is left out of what is only
shown, and no index that is read from a text exceeds it.
-/

namespace FlowTyping

inductive VarKind where
  /-- The value that a unit returns. -/
  | ret
  /-- The context in which a unit runs. -/
  | pc
  /-- A parameter of a unit. -/
  | param
  /-- Anything inside a unit. -/
  | fresh
  deriving DecidableEq, Repr

def VarKind.rank : VarKind → Nat
  | .ret => 0
  | .pc => 1
  | .param => 2
  | .fresh => 3

structure TypeVar where
  /-- The number of the namespace that issued the variable. -/
  space : Int
  kind : VarKind
  index : Int
  deriving DecidableEq, Repr

namespace TypeVar

def kindRank (v : TypeVar) : Nat := v.kind.rank

/-- Variables by namespace, then kind, then index. -/
def order : TypeVar → TypeVar → Ordering :=
  compareLex (compareOn space) (compareLex (compareOn kindRank) (compareOn index))

instance : Ord TypeVar := ⟨order⟩

instance : Inhabited TypeVar := ⟨⟨0, .ret, 0⟩⟩

instance : Std.TransOrd TypeVar := by
  show Std.TransCmp order
  unfold order
  infer_instance

theorem keys_injective :
    Function.Injective (fun v : TypeVar => (v.space, v.kindRank, v.index)) := by
  intro a b same
  obtain ⟨_, kindA, _⟩ := a
  obtain ⟨_, kindB, _⟩ := b
  cases kindA <;> cases kindB <;> simp_all [kindRank, VarKind.rank]

instance : Std.LawfulEqOrd TypeVar :=
  ComparesBy.lawful (.lex (.on space) (.lex (.on kindRank) (.on index))) keys_injective

/-- How a variable is shown, given a hint for those inside a unit. -/
def shownAs (v : TypeVar) (hint : String) : String :=
  match v.kind with
  | .ret => "ret"
  | .pc => "pc"
  | .param => "p" ++ toString v.index
  | .fresh => if hint.isEmpty then "x" ++ toString v.index else hint

end TypeVar

/-- How the variables of a run are shown. -/
abbrev Labels := TypeVar → String

end FlowTyping
