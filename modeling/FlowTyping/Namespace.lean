import FlowTyping.SortedSet
import FlowTyping.Variable

/-!
Namespaces issue the variables of one analysed unit. The return and context variables are
always there; a parameter is remembered once it is asked for, so that the boundary of the
unit can be told later; a fresh variable is new each time, and a name stands for one fresh
variable for ever. A session numbers its namespaces one after the other, so that no two of
them share a variable.
-/

namespace FlowTyping

structure Namespace where
  number : Nat
  /-- What fresh variables without a hint are called after. -/
  stem : String
  /-- The parameters asked for so far, in order of first request. -/
  params : List Nat
  /-- The hints of the fresh variables issued so far, in order of issue. -/
  hints : List String
  /-- The names in use, in order of first use, each with the index of its variable. -/
  names : List (String × Nat)
  deriving DecidableEq

/-- A position before the first parameter. -/
structure NegativePosition where
  position : Int
  deriving DecidableEq, Repr

def NegativePosition.message (e : NegativePosition) : String :=
  "Parameter position must be non-negative, got " ++ toString e.position

abbrev VarSet := SortedSet TypeVar compare

namespace Namespace

/-- A namespace that has issued nothing yet. -/
def create (number : Nat) (stem : String) : Namespace := ⟨number, stem, [], [], []⟩

def ret (ns : Namespace) : TypeVar := ⟨ns.number, .ret, 0⟩

def pc (ns : Namespace) : TypeVar := ⟨ns.number, .pc, 0⟩

def paramVar (ns : Namespace) (position : Nat) : TypeVar := ⟨ns.number, .param, position⟩

def freshVar (ns : Namespace) (index : Nat) : TypeVar := ⟨ns.number, .fresh, index⟩

def param (ns : Namespace) (position : Nat) : TypeVar × Namespace :=
  (ns.paramVar position,
    if position ∈ ns.params then ns else { ns with params := ns.params ++ [position] })

/-- Asks for the parameter at a position that may be none. -/
def paramAt (ns : Namespace) (position : Int) : Except NegativePosition TypeVar × Namespace :=
  if position < 0 then (.error ⟨position⟩, ns)
  else
    let (var, next) := ns.param position.toNat
    (.ok var, next)

/-- Asks for the parameters at positions below a count. -/
def paramsBelow (ns : Namespace) (count : Nat) : List TypeVar × Namespace :=
  (List.range count).foldl
    (fun issued position =>
      let (var, next) := issued.2.param position
      (issued.1 ++ [var], next))
    ([], ns)

/-- Issues a new variable; without a hint it is called after the stem and its index. -/
def fresh (ns : Namespace) (hint : String) : TypeVar × Namespace :=
  let index := ns.hints.length
  let hint := if hint.isEmpty then ns.stem ++ toString index else hint
  (ns.freshVar index, { ns with hints := ns.hints ++ [hint] })

/-- The variable that a name stands for; a new name gets a new variable. -/
def named (ns : Namespace) (name : String) : TypeVar × Namespace :=
  match ns.names.lookup name with
  | some index => (ns.freshVar index, ns)
  | none =>
    let (var, next) := ns.fresh name
    (var, { next with names := ns.names ++ [(name, ns.hints.length)] })

/-- The return variable and every parameter asked for so far. -/
def boundary (ns : Namespace) : VarSet :=
  SortedSet.ofList (ns.ret :: ns.params.map ns.paramVar)

def hint (ns : Namespace) (v : TypeVar) : String :=
  match v.kind with
  | .fresh => ns.hints.getD v.index.toNat ""
  | _ => ""

def label (ns : Namespace) : Labels := fun v => v.shownAs (ns.hint v)

def describe (ns : Namespace) : String :=
  "TypeVars(prefix=" ++ Text.quoted ns.stem ++ ", namespace=" ++ toString ns.number ++ ")"

end Namespace

/-- The namespaces of a run, in order of creation and numbered from one. -/
structure Session where
  spaces : List Namespace
  deriving DecidableEq

namespace Session

def empty : Session := ⟨[]⟩

/-- Creates a namespace. -/
def create (s : Session) (stem : String) : Namespace × Session :=
  let ns := Namespace.create (s.spaces.length + 1) stem
  (ns, ⟨s.spaces ++ [ns]⟩)

def get? (s : Session) (number : Nat) : Option Namespace :=
  s.spaces.find? (fun ns => ns.number == number)

/-- Puts a namespace in the place of the one with its number. -/
def put (s : Session) (ns : Namespace) : Session :=
  ⟨s.spaces.map (fun old => if old.number = ns.number then ns else old)⟩

def hint (s : Session) (v : TypeVar) : String :=
  match s.get? v.space.toNat with
  | some ns => ns.hint v
  | none => ""

def label (s : Session) : Labels := fun v => v.shownAs (s.hint v)

end Session

end FlowTyping
