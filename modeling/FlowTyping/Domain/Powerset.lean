import FlowTyping.Domain.Error
import FlowTyping.LevelLattice
import FlowTyping.Text.Blank
import FlowTyping.Text.Split

namespace FlowTyping

/-- The domain of all sets over a list of distinct principals. -/
structure Powerset where
  principals : List String
  deriving DecidableEq

namespace Powerset

/-- Characters that no principal's name may hold, since they delimit levels and constraints. -/
def reserved : List Char := ['\x7b', '\x7d', ',', '?', ' ', '\t']

def validName (name : String) : Bool :=
  !name.toList.isEmpty && !name.toList.any (fun c => reserved.contains c)

/-- The domain over some principals, of which repetitions are dropped. -/
def ofPrincipals (principals : List String) : Except LatticeError Powerset :=
  let distinct := principals.eraseDups
  if distinct.isEmpty then .error .noPrincipals
  else
    match distinct.find? (fun name => !validName name) with
    | some name => .error (.invalidPrincipal name)
    | none => .ok ⟨distinct⟩

/-- The choices of `count` members of a list, in the order of the list. -/
def choices : Nat → List String → List (List String)
  | 0, _ => [[]]
  | _ + 1, [] => []
  | count + 1, name :: rest =>
    (choices count rest).map (name :: ·) ++ choices (count + 1) rest

def levelOf (names : List String) : Level := .principals (SortedSet.ofList names)

/-- Every subset, by size, starting with the empty one. -/
def elements (p : Powerset) : List Level :=
  (List.range (p.principals.length + 1)).flatMap
    (fun size => (choices size p.principals).map levelOf)

def lattice (p : Powerset) : LevelLattice Level where
  le
    | .principals a, .principals b => a.subset b
    | _, _ => false
  lub
    | .principals a, .principals b => .principals (a.union b)
    | a, _ => a
  glb
    | .principals a, .principals b => .principals (a.inter b)
    | a, _ => a
  top := levelOf p.principals
  bottom := .principals .empty
  elements := p.elements

/-- The level with the given principals, all of which must be known. -/
def level (p : Powerset) (names : List String) : Except LatticeError Level :=
  match names.find? (fun name => !p.principals.contains name) with
  | some name => .error (.unknownPrincipal name)
  | none => .ok (levelOf names)

/-- The characters between an opening and a closing brace. -/
def braced? : List Char → Option (List Char)
  | '\x7b' :: rest =>
    match rest.reverse with
    | '\x7d' :: body => some body.reverse
    | _ => none
  | _ => none

/-- Reads a level: names between braces, separated by commas. -/
def parse (p : Powerset) (text : String) : Except LatticeError Level :=
  match braced? (Text.stripChars text.toList) with
  | none => .error (.notASet text)
  | some inner =>
    let body := Text.stripChars inner
    if body.isEmpty then .ok (.principals .empty)
    else
      let names := (Text.splitAtChar ',' body).map Text.stripChars
      if names.any List.isEmpty then .error (.emptyPrincipal text)
      else p.level (names.map String.ofList)

/-- The place of a principal in the declaration; unknown ones come last. -/
def position (p : Powerset) (name : String) : Nat := p.principals.idxOf name

/-- Writes the names of a level in the order of declaration. -/
def formatNames (p : Powerset) (names : List String) : String :=
  let placed := names.mergeSort (fun a b => decide (p.position a ≤ p.position b))
  "\x7b" ++ ",".intercalate placed ++ "\x7d"

end Powerset

end FlowTyping
