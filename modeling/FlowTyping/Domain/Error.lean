import FlowTyping.Text.Quoted

namespace FlowTyping

/-- Which of the two bounds of a pair is meant. -/
inductive BoundSide where
  | lub
  | glb
  deriving DecidableEq, Repr

def BoundSide.word : BoundSide → String
  | .lub => "lub"
  | .glb => "glb"

/-- A domain that is no bounded lattice, or a level that it does not know. -/
inductive LatticeError where
  | unknownPoint (text : String)
  | noPrincipals
  | invalidPrincipal (name : String)
  | notASet (text : String)
  | emptyPrincipal (text : String)
  | unknownPrincipal (name : String)
  | noElements
  | unknownInCover (lower upper : String)
  | cycle (a b : String)
  | noUniqueBound (a b : String) (side : BoundSide)
  | noUniqueExtremes
  | unknownName (text : String) (names : List String)
  deriving DecidableEq, Repr

def LatticeError.message : LatticeError → String
  | .unknownPoint text => "Unknown LowHigh level: " ++ Text.quoted text
  | .noPrincipals => "PowersetLattice needs at least one principal"
  | .invalidPrincipal name => "Invalid principal name: " ++ Text.quoted name
  | .notASet text => "Powerset level must be written \x7bp1,p2,...\x7d: " ++ Text.quoted text
  | .emptyPrincipal text => "Empty principal name in level: " ++ Text.quoted text
  | .unknownPrincipal name => "Unknown principal: " ++ Text.quoted name
  | .noElements => "A finite lattice needs at least one element"
  | .unknownInCover lower upper =>
    "Cover (" ++ Text.quoted lower ++ ", " ++ Text.quoted upper ++ ") mentions an unknown level"
  | .cycle a b =>
    "Covers contain a cycle through " ++ Text.quoted a ++ " and " ++ Text.quoted b
  | .noUniqueBound a b side =>
    "Levels " ++ Text.quoted a ++ " and " ++ Text.quoted b ++ " have no unique " ++ side.word
  | .noUniqueExtremes => "Finite lattice must have a unique top and bottom"
  | .unknownName text names =>
    "Unknown level " ++ Text.quoted text ++ "; expected one of " ++ Text.quotedList names

end FlowTyping
