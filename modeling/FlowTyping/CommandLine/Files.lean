import FlowTyping.Document
import FlowTyping.Text.CodePoint
import FlowTyping.Text.Split

/-!
The files that a run can see. A path is a list of names, without the empty ones and those
that mean "here"; it is shown in that form. A tree of files is given by its entries, and the
directories above an entry are there because the entry is. Around the tree lies a directory
of which nothing else is known.
-/

namespace FlowTyping

/-- What a path leads to. -/
inductive FileEntry where
  | document (document : Document)
  /-- A file that holds no document. -/
  | broken
  | directory

/-- A path: whether it starts at the root, and the names along it. -/
structure TreePath where
  /-- The slashes that a path from the root starts with; none for other paths. -/
  root : String
  names : List String
  deriving DecidableEq

namespace TreePath

/-- The slashes with which a path starts; exactly two of them differ from one. -/
def rootOf : List Char → String
  | '/' :: '/' :: '/' :: _ => "/"
  | '/' :: '/' :: _ => "//"
  | '/' :: _ => "/"
  | _ => ""

def ofText (text : String) : TreePath :=
  ⟨rootOf text.toList,
    ((Text.splitAtChar '/' text.toList).map String.ofList).filter
      (fun name => decide (name ≠ "") && decide (name ≠ "."))⟩

def child (path : TreePath) (name : String) : TreePath :=
  { path with names := path.names ++ [name] }

def shown (path : TreePath) : String :=
  if path.root = "" ∧ path.names = [] then "." else path.root ++ "/".intercalate path.names

/-- Whether a code point can stand in the name of a file. -/
def isNameable (code : Nat) : Bool := decide (code ≠ 0) && !Text.isHalf code

/-- Whether every name on a path can be the name of a file. -/
def canExist (path : TreePath) : Bool :=
  path.names.all (fun name => (Text.codePoints name).all isNameable)

end TreePath

/-- What is found where a path leads. -/
inductive Lookup where
  | found (entry : FileEntry)
  | absent
  /-- The path or a name on it is too long to be looked up. -/
  | tooLong

/-- What the paths of a run lead to. -/
abbrev Files := TreePath → Lookup

def nameLimit : Nat := 255

def pathLimit : Nat := 4095

/-- The entries below the directory in which a run starts. -/
structure FileTree where
  entries : List (List String × FileEntry)

namespace FileTree

/-- The tree of entries given by their paths; a later entry replaces an earlier one. -/
def ofEntries (entries : List (String × FileEntry)) : FileTree :=
  ⟨entries.reverse.map (fun entry => ((TreePath.ofText entry.1).names, entry.2))⟩

def entryAt (tree : FileTree) (place : List String) : Option FileEntry :=
  match tree.entries.find? (fun entry => decide (entry.1 = place)) with
  | some (_, entry) => some entry
  | none =>
    if place.isEmpty || tree.entries.any (fun entry => place.isPrefixOf entry.1) then
      some .directory
    else none

/-- Where a walk along a path has come to: a place of the tree, or a directory outside. -/
inductive Station where
  | inside (place : List String)
  | outside
  deriving DecidableEq

def Station.parent : Station → Station
  | .inside [] => .outside
  | .inside place => .inside place.dropLast
  | .outside => .outside

def at? (tree : FileTree) : Station → Option FileEntry
  | .inside place => tree.entryAt place
  | .outside => some .directory

/-- What names lead to from a station; each step needs a directory. -/
def follow (tree : FileTree) (station : Station) : List String → Lookup
  | [] =>
    match tree.at? station with
    | some entry => .found entry
    | none => .absent
  | name :: rest =>
    match tree.at? station with
    | some .directory =>
      if name = ".." then tree.follow station.parent rest
      else if nameLimit < Text.storedSize name then .tooLong
      else
        match station with
        | .inside place => tree.follow (.inside (place ++ [name])) rest
        | .outside => .absent
    | _ => .absent

/-- The files of the tree. A path that no file can have leads nowhere, whatever its length. -/
def files (tree : FileTree) : Files := fun path =>
  if !path.canExist then .absent
  else if pathLimit < Text.storedSize path.shown then .tooLong
  else tree.follow (if path.root = "" then .inside [] else .outside) path.names

end FileTree

end FlowTyping
