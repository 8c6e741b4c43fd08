import FlowTyping.Domain.Error
import FlowTyping.LevelLattice
import FlowTyping.Text.Blank

/-!
Domains given by a Hasse diagram: names, and pairs of a name and one that covers it. The
order is the reflexive and transitive closure of the pairs. A diagram is accepted when the
closure is antisymmetric and every two names have a unique least upper and greatest lower
bound.
-/

namespace FlowTyping

/-- The names of a diagram, each with the names above it, and the extremes. -/
structure Hasse where
  names : List String
  above : List (String × List String)
  bottom : String
  top : String
  deriving DecidableEq

namespace Hasse

/-- The only member of a list. -/
def only? : List String → Option String
  | [name] => some name
  | _ => none

def upSet (above : List (String × List String)) (name : String) : List String :=
  (above.lookup name).getD []

/-- Whether the table puts `b` above `a`. -/
def below (above : List (String × List String)) (a b : String) : Bool :=
  (upSet above a).contains b

/-- Adds names to the row of one name, each once. -/
def widen (above : List (String × List String)) (name : String) (more : List String) :
    List (String × List String) :=
  above.map (fun row =>
    if row.1 = name then (row.1, row.2 ++ more.filter (fun n => !row.2.contains n)) else row)

/-- Every name with itself and the names that cover it. -/
def coverRows (names : List String) (covers : List (String × String)) :
    List (String × List String) :=
  covers.foldl (fun above c => widen above c.1 [c.2]) (names.map (fun name => (name, [name])))

/-- Puts what lies above `k` above `i`, if `i` lies below `k`. -/
def closeRow (k : String) (above : List (String × List String)) (i : String) :
    List (String × List String) :=
  if below above i k then widen above i (upSet above k) else above

/-- Puts what lies above `k` above every name below `k`, in the table that is being read. -/
def closeThrough (names : List String) (above : List (String × List String)) (k : String) :
    List (String × List String) :=
  names.foldl (closeRow k) above

/-- Every name with the names above it: the covers, closed through one name after the other. -/
def upSets (names : List String) (covers : List (String × String)) :
    List (String × List String) :=
  names.foldl (closeThrough names) (coverRows names covers)

def upperBounds (names : List String) (above : List (String × List String)) (a b : String) :
    List String :=
  names.filter (fun n => below above a n && below above b n)

def lowerBounds (names : List String) (above : List (String × List String)) (a b : String) :
    List String :=
  names.filter (fun n => below above n a && below above n b)

/-- The least upper bound of a pair, if there is exactly one. -/
def lub? (names : List String) (above : List (String × List String)) (a b : String) :
    Option String :=
  let bounds := upperBounds names above a b
  only? (bounds.filter (fun n => bounds.all (fun m => below above n m)))

/-- The greatest lower bound of a pair, if there is exactly one. -/
def glb? (names : List String) (above : List (String × List String)) (a b : String) :
    Option String :=
  let bounds := lowerBounds names above a b
  only? (bounds.filter (fun n => bounds.all (fun m => below above m n)))

def pairs (names : List String) : List (String × String) :=
  names.flatMap (fun a => names.map (fun b => (a, b)))

/-- The first two names that lie above each other. -/
def cycle? (names : List String) (above : List (String × List String)) :
    Option (String × String) :=
  (pairs names).find? (fun p => decide (p.1 ≠ p.2) && below above p.1 p.2 && below above p.2 p.1)

/-- What a pair lacks: its least upper bound, or else its greatest lower bound. -/
def lacking? (names : List String) (above : List (String × List String)) (p : String × String) :
    Option LatticeError :=
  if (lub? names above p.1 p.2).isNone then some (.noUniqueBound p.1 p.2 .lub)
  else if (glb? names above p.1 p.2).isNone then some (.noUniqueBound p.1 p.2 .glb)
  else none

/-- Builds the domain of a diagram, or says what is wrong with it. -/
def ofCovers (elements : List String) (covers : List (String × String)) :
    Except LatticeError Hasse :=
  let names := elements.eraseDups
  if names.isEmpty then .error .noElements
  else
    match covers.find? (fun c => !(names.contains c.1 && names.contains c.2)) with
    | some (lower, upper) => .error (.unknownInCover lower upper)
    | none =>
      let above := upSets names covers
      match cycle? names above with
      | some (a, b) => .error (.cycle a b)
      | none =>
        match (pairs names).findSome? (lacking? names above) with
        | some problem => .error problem
        | none =>
          let bottoms := names.filter (fun n => names.all (fun m => below above n m))
          let tops := names.filter (fun n => names.all (fun m => below above m n))
          match only? bottoms, only? tops with
          | some bottom, some top => .ok ⟨names, above, bottom, top⟩
          | _, _ => .error .noUniqueExtremes

def knows (h : Hasse) (name : String) : Bool := h.names.contains name

/-- The bottom, then the other names in the order of declaration. -/
def elements (h : Hasse) : List Level :=
  (h.bottom :: h.names.filter (fun n => decide (n ≠ h.bottom))).map Level.name

def lattice (h : Hasse) : LevelLattice Level where
  le
    | .name a, .name b => below h.above a b
    | _, _ => false
  lub
    | .name a, .name b => .name ((lub? h.names h.above a b).getD a)
    | a, _ => a
  glb
    | .name a, .name b => .name ((glb? h.names h.above a b).getD a)
    | a, _ => a
  top := .name h.top
  bottom := .name h.bottom
  elements := h.elements

/-- Reads a name, with blanks around. -/
def parse (h : Hasse) (text : String) : Except LatticeError Level :=
  let name := Text.strip text
  if h.knows name then .ok (.name name) else .error (.unknownName text h.names)

/-- Whether two diagrams have the same names and the same order. -/
def same (h k : Hasse) : Bool :=
  h.names.all k.knows && k.names.all h.knows &&
    h.names.all (fun a => h.names.all (fun b => below h.above a b == below k.above a b))

end Hasse

end FlowTyping
