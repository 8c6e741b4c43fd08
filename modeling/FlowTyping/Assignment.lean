import FlowTyping.Closure

namespace FlowTyping

/-- Levels for some variables, listed in the order of the variables. -/
structure Assignment where
  bindings : List (TypeVar × Level)
  deriving DecidableEq

inductive AssignmentError where
  | dynamic (var : TypeVar)
  | conflict (var : TypeVar) (current new : Level)
  deriving DecidableEq

def AssignmentError.message (labels : Labels) : AssignmentError → String
  | .dynamic var => "Cannot assign the dynamic level to " ++ labels var
  | .conflict var current new =>
    labels var ++ " is already bound to " ++ current.shown ++ ", cannot rebind to " ++ new.shown

namespace Assignment

def empty : Assignment := ⟨[]⟩

instance : Inhabited Assignment := ⟨empty⟩

def get? (a : Assignment) (v : TypeVar) : Option Level := a.bindings.lookup v

/-- Puts a binding where the order of the variables wants it. -/
def insertBinding (v : TypeVar) (level : Level) : List (TypeVar × Level) → List (TypeVar × Level)
  | [] => [(v, level)]
  | (w, there) :: rest =>
    match compare v w with
    | .lt => (v, level) :: (w, there) :: rest
    | .eq => (w, level) :: rest
    | .gt => (w, there) :: insertBinding v level rest

/-- Binds a variable that has no other level yet. -/
def bind (a : Assignment) (v : TypeVar) (value : Literal) : Except AssignmentError Assignment :=
  match value with
  | .dyn => .error (.dynamic v)
  | .level level =>
    match a.get? v with
    | some current =>
      if current = level then .ok a else .error (.conflict v current level)
    | none => .ok ⟨insertBinding v level a.bindings⟩

/-- The value of a literal, or the level of a variable that has one. -/
def valueOf? (a : Assignment) : Operand → Option Literal
  | .literal value => some value
  | .var v => (a.get? v).map Literal.level

def shown (labels : Labels) (a : Assignment) : String :=
  "Assignment(" ++
    ", ".intercalate (a.bindings.map (fun b => labels b.1 ++ "=" ++ b.2.shown)) ++ ")"

end Assignment

/-- The least level of every variable outside `fixed`: the join of the literals that flow
into it, or the bottom. None if the set has no solution. -/
def ConstraintSet.leastAssignment? (K : LevelLattice Level) (cs : ConstraintSet)
    (fixed : List TypeVar) : Option Assignment :=
  let closure := Closure.ofSet K cs
  if closure.isSat then
    let free := cs.vars.toList.filter (fun v => decide (v ∉ fixed))
    some ⟨free.map (fun v => (v, (closure.leastLevel? (.var v)).getD K.bottom))⟩
  else none

end FlowTyping
