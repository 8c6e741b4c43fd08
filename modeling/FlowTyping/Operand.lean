import FlowTyping.Level
import FlowTyping.Namespace

namespace FlowTyping

/-- A side of a constraint. -/
inductive Operand where
  | literal (value : Literal)
  | var (v : TypeVar)
  deriving DecidableEq

namespace Operand

instance : Inhabited Operand := ⟨.literal .dyn⟩

/-- Zero for literals, one for variables. -/
def rank : Operand → Nat
  | .literal _ => 0
  | .var _ => 1

/-- The literal of an operand; for a variable an arbitrary one. -/
def literalPart : Operand → Literal
  | .literal value => value
  | .var _ => .dyn

/-- The variable of an operand; for a literal an arbitrary one. -/
def varPart : Operand → TypeVar
  | .literal _ => default
  | .var v => v

/-- Literals before variables, each in its own order. -/
def order : Operand → Operand → Ordering :=
  compareLex (compareOn rank) (compareLex (compareOn literalPart) (compareOn varPart))

instance : Ord Operand := ⟨order⟩

instance : Std.TransOrd Operand := by
  show Std.TransCmp order
  unfold order
  infer_instance

theorem keys_injective :
    Function.Injective (fun x : Operand => (x.rank, x.literalPart, x.varPart)) := by
  intro a b same
  cases a <;> cases b <;> simp_all [rank, literalPart, varPart]

instance : Std.LawfulEqOrd Operand :=
  ComparesBy.lawful (.lex (.on rank) (.lex (.on literalPart) (.on varPart))) keys_injective

def literal? : Operand → Option Literal
  | .literal value => some value
  | .var _ => none

def var? : Operand → Option TypeVar
  | .literal _ => none
  | .var v => some v

def level? : Operand → Option Level
  | .literal (.level l) => some l
  | _ => none

def isLiteral : Operand → Bool
  | .literal _ => true
  | .var _ => false

def isDyn : Operand → Bool
  | .literal .dyn => true
  | _ => false

/-- Whether the operand is a literal level. -/
def isStatic : Operand → Bool
  | .literal (.level _) => true
  | _ => false

@[simp] theorem isLiteral_iff {n : Operand} : n.isLiteral = true ↔ ∃ l, n = .literal l := by
  cases n <;> simp [isLiteral]

@[simp] theorem isDyn_iff {n : Operand} : n.isDyn = true ↔ n = .literal .dyn := by
  rcases n with (_ | _) | _ <;> simp [isDyn]

@[simp] theorem isStatic_iff {n : Operand} :
    n.isStatic = true ↔ ∃ l, n = .literal (.level l) := by
  rcases n with (_ | _) | _ <;> simp [isStatic]

@[simp] theorem level?_eq_some {n : Operand} {l : Level} :
    n.level? = some l ↔ n = .literal (.level l) := by
  rcases n with (_ | _) | _ <;> simp [level?]

@[simp] theorem literal?_eq_some {n : Operand} {l : Literal} :
    n.literal? = some l ↔ n = .literal l := by
  cases n <;> simp [literal?]

@[simp] theorem var?_eq_some {n : Operand} {v : TypeVar} : n.var? = some v ↔ n = .var v := by
  cases n <;> simp [var?]

def shown (labels : Labels) : Operand → String
  | .literal value => value.shown
  | .var v => labels v

end Operand

end FlowTyping
