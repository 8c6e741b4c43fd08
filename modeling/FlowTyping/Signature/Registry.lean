import FlowTyping.Signature

namespace FlowTyping

/-- Signatures by name, in order of registration. -/
structure Registry where
  entries : Table String Signature
  deriving DecidableEq

inductive RegistryError where
  | conflict (key : String) (existing new : Signature)
  | missing (key : String)
  deriving DecidableEq

def RegistryError.message : RegistryError → String
  | .conflict key existing new =>
    "Signature for " ++ key ++ " already registered as " ++ existing.shown ++ ", got " ++ new.shown
  | .missing key => "No signature registered for " ++ key

namespace Registry

def empty : Registry := ⟨[]⟩

instance : Inhabited Registry := ⟨empty⟩

def get? (r : Registry) (key : String) : Option Signature := Table.find? r.entries key

/-- The signature under a name that has to be there. -/
def lookup (r : Registry) (key : String) : Except RegistryError Signature :=
  match r.get? key with
  | some signature => .ok signature
  | none => .error (.missing key)

/-- Registers a signature: the one that is then under the name, and the registry. -/
def register (r : Registry) (key : String) (signature : Signature) :
    Except RegistryError (Signature × Registry) :=
  match r.get? key with
  | none => .ok (signature, ⟨Table.put key signature r.entries⟩)
  | some existing =>
    if existing = signature then .ok (existing, r) else .error (.conflict key existing signature)

def keys (r : Registry) : SortedSet String compare := SortedSet.ofList (r.entries.map Prod.fst)

end Registry

end FlowTyping
