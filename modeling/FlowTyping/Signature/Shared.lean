import FlowTyping.Signature.Registry

/-!
A registry that clients share. A request holds the registry for one section, which no other
request enters meanwhile. What it has taken away it works on alone: a registration compares the
two signatures, and a look-up refuses a name without a signature, when the registry may already
have served others.
-/

namespace FlowTyping.Registry

inductive Request where
  | register (key : String) (signature : Signature)
  | get (key : String)
  | lookup (key : String)
  | contains (key : String)
  | size
  | keys
  deriving DecidableEq

inductive Reply where
  | signature (signature : Signature)
  | found (signature? : Option Signature)
  | present (answer : Bool)
  | size (count : Nat)
  | names (keys : List String)
  | refused (error : RegistryError)
  deriving DecidableEq

/-- The reply that a signature or an error makes. -/
def Reply.of : Except RegistryError Signature → Reply
  | .ok kept => .signature kept
  | .error error => .refused error

/-- Serves a request that no other comes in between: the reply, and the registry after it. -/
def serve (r : Registry) : Request → Reply × Registry
  | .register key signature =>
    match r.register key signature with
    | .ok (kept, next) => (.signature kept, next)
    | .error error => (.refused error, r)
  | .get key => (.found (r.get? key), r)
  | .lookup key => (.of (r.lookup key), r)
  | .contains key => (.present (r.get? key).isSome, r)
  | .size => (.size r.entries.length, r)
  | .keys => (.names r.keys.toList, r)

/-- What a request takes away from its section. -/
inductive Held where
  /-- The reply itself. -/
  | settled (reply : Reply)
  /-- The signature under a name, still to be compared with the one to register there. -/
  | comparing (key : String) (existing new : Signature)
  /-- What is under a name, still to be refused if it is nothing. -/
  | requiring (key : String) (signature? : Option Signature)
  deriving DecidableEq

/-- What comes of it, without another look at the registry. -/
def Held.reply : Held → Reply
  | .settled reply => reply
  | .comparing key existing new =>
    if existing = new then .signature existing else .refused (.conflict key existing new)
  | .requiring _ (some signature) => .signature signature
  | .requiring key none => .refused (.missing key)

/-- The section of a request: what it takes away, and the registry that it leaves. -/
def enter (r : Registry) : Request → Held × Registry
  | .register key signature =>
    match r.get? key with
    | none => (.settled (.signature signature), ⟨Table.put key signature r.entries⟩)
    | some existing => (.comparing key existing signature, r)
  | .get key => (.settled (.found (r.get? key)), r)
  | .lookup key => (.requiring key (r.get? key), r)
  | .contains key => (.settled (.present (r.get? key).isSome), r)
  | .size => (.settled (.size r.entries.length), r)
  | .keys => (.settled (.names r.keys.toList), r)

universe u

/-- A request of a client that has been through its section. -/
structure Visit (γ : Type u) where
  client : γ
  request : Request
  held : Held

def Visit.reply {γ : Type u} (visit : Visit γ) : Reply := visit.held.reply

/-- A registry with its clients. -/
structure Shared (γ : Type u) where
  registry : Registry
  /-- All visits so far, in order. -/
  visits : List (Visit γ)
  /-- The visit whose reply a client still waits for. -/
  waiting : γ → Option (Visit γ)
  /-- The visits that have been replied to, with the replies. -/
  replied : List (Visit γ × Reply)

/-- What can happen next: a client enters the section of a request, or gets its reply. -/
inductive Move (γ : Type u) where
  | enter (client : γ) (request : Request)
  | leave (client : γ)

namespace Shared

variable {γ : Type u}

/-- An empty registry, and no client has asked anything. -/
def outset : Shared γ := ⟨.empty, [], fun _ => none, []⟩

variable [DecidableEq γ]

/-- A client goes through the section of a request, and waits for its reply. -/
def enter (w : Shared γ) (client : γ) (request : Request) : Shared γ :=
  let visit : Visit γ := ⟨client, request, (w.registry.enter request).1⟩
  { w with
    registry := (w.registry.enter request).2
    visits := w.visits ++ [visit]
    waiting := fun c => if c = client then some visit else w.waiting c }

/-- A client gets the reply to its visit. -/
def leave (w : Shared γ) (client : γ) (visit : Visit γ) : Shared γ :=
  { w with
    waiting := fun c => if c = client then none else w.waiting c
    replied := w.replied ++ [(visit, visit.reply)] }

/-- The state after a move. A client that waits enters no other section, and one that does not
wait gets no reply. -/
def step (w : Shared γ) : Move γ → Shared γ
  | .enter client request =>
    match w.waiting client with
    | some _ => w
    | none => w.enter client request
  | .leave client =>
    match w.waiting client with
    | some visit => w.leave client visit
    | none => w

def after (w : Shared γ) (moves : List (Move γ)) : Shared γ := moves.foldl step w

end Shared

end FlowTyping.Registry
