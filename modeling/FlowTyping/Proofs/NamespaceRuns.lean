import FlowTyping.Proofs.ReadingTrails

namespace FlowTyping

/-- What can be asked of a namespace and of the reader that goes with it. -/
inductive Call where
  | fresh (hint : String)
  | ret
  | pc
  | param (position : Int)
  | params (count : Int)
  | operand (domain : Domain) (text : String)
  | parse (domain : Domain) (text : String)
  | parseAll (domain : Domain) (lines : List String)

/-- The references that a call asks for, up to where it fails. -/
def Call.references : Call → List Reference
  | .fresh hint => [.fresh hint]
  | .ret => [.ret]
  | .pc => [.pc]
  | .param position => if position < 0 then [] else [.param position.toNat]
  | .params count => (List.range count.toNat).map .param
  | .operand domain text => (operandTrail domain text).references
  | .parse domain text => (constraintTrail domain text).references
  | .parseAll domain lines => (constraintsTrail domain lines).references

namespace Namespace

variable {ns next : Namespace} {v : TypeVar} {call : Call}

/-- The variables of a result, none if it is an error, and the namespace after it. -/
def outcome {ε α : Type} (vars : α → List TypeVar) (result : Except ε α × Namespace) :
    List TypeVar × Namespace :=
  match result with
  | (.ok a, next) => (vars a, next)
  | (.error _, next) => ([], next)

/-- The variables that a call returns, and the namespace after it. -/
def ask (ns : Namespace) : Call → List TypeVar × Namespace
  | .fresh hint =>
    let (var, next) := ns.fresh hint
    ([var], next)
  | .ret => ([ns.ret], ns)
  | .pc => ([ns.pc], ns)
  | .param position => outcome (fun v => [v]) (ns.paramAt position)
  | .params count => ns.paramsBelow count.toNat
  | .operand domain text => outcome (fun n => n.var?.toList) (ns.readOperand domain text)
  | .parse domain text => outcome Flow.vars (ns.readConstraint domain text)
  | .parseAll domain lines =>
    outcome (fun cs => cs.flatMap Flow.vars) (ns.readConstraints domain lines)

/-- A call asks for its references one after the other, and returns variables issued for them. -/
structure Serves (ns : Namespace) (references : List Reference)
    (answer : List TypeVar × Namespace) : Prop where
  state : answer.2 = (ns.issueAll references).2
  issued : ∀ v ∈ answer.1, ∃ e ∈ (ns.issueAll references).1, e.var = v

theorem Follows.serves {ε α : Type} {trail : Trail} {vars : α → List TypeVar}
    {result : Except ε α × Namespace} (follows : ns.Follows trail vars result) :
    ns.Serves trail.references (outcome vars result) := by
  rcases result with ⟨e | a, next⟩
  · exact ⟨follows.state, fun v none => by cases none⟩
  · exact ⟨follows.state, follows.issued a rfl⟩

theorem issue_serves (r : Reference) : ns.Serves [r] ([(ns.issue r).1], (ns.issue r).2) := by
  refine ⟨rfl, ?_⟩
  intro v listed
  exact ⟨_, List.mem_cons_self, (List.mem_singleton.mp listed).symm⟩

theorem paramAt_serves (position : Int) :
    ns.Serves (Call.param position).references (ns.ask (.param position)) := by
  by_cases negative : position < 0
  · simp only [Call.references, ask, paramAt, negative, if_true, outcome]
    exact ⟨rfl, fun v none => by cases none⟩
  · simp only [Call.references, ask, paramAt, negative, if_false, outcome]
    exact issue_serves (.param position.toNat)

theorem paramsBelow_serves (count : Nat) :
    ns.Serves ((List.range count).map .param) (ns.paramsBelow count) := by
  have fold : ∀ (positions : List Nat) (vars : List TypeVar) (ns : Namespace),
      positions.foldl (fun issued position =>
          ((issued.1 ++ [(issued.2.param position).1], (issued.2.param position).2) :
            List TypeVar × Namespace)) (vars, ns) =
        (vars ++ (ns.issueAll (positions.map .param)).1.map Issued.var,
          (ns.issueAll (positions.map .param)).2) := by
    intro positions
    induction positions with
    | nil => intro vars ns; simp [issueAll]
    | cons first rest ih => intro vars ns; simp [ih, issueAll, issue]
  have whole : ns.paramsBelow count = _ := fold (List.range count) [] ns
  rw [whole]
  refine ⟨rfl, ?_⟩
  intro v listed
  simpa using listed

theorem ask_serves : ns.Serves call.references (ns.ask call) := by
  cases call with
  | fresh hint => exact issue_serves (.fresh hint)
  | ret => exact issue_serves .ret
  | pc => exact issue_serves .pc
  | param position => exact paramAt_serves position
  | params count => exact paramsBelow_serves count.toNat
  | operand domain text => exact (readOperand_follows ns domain text).serves
  | parse domain text => exact (readConstraint_follows ns domain text).serves
  | parseAll domain lines => exact (readConstraints_follows ns domain lines).serves

theorem ask_grows : ns.Grows (ns.ask call).2 := by
  rw [ask_serves.state]
  exact issueAll_grows

end Namespace

namespace Session

variable {s : Session} {ns : Namespace} {number : Nat}

theorem mem_of_get? (found : s.get? number = some ns) : ns ∈ s.spaces ∧ ns.number = number :=
  ⟨List.mem_of_find?_eq_some found, by simpa using List.find?_some found⟩

theorem get?_put (next : Namespace) : (s.put next).get? number =
    (s.get? number).map (fun old => if old.number = next.number then next else old) := by
  rw [get?, put, List.find?_map]
  congr 2
  funext old
  by_cases same : old.number = next.number <;> simp [same]

theorem get?_create (stem : String) (found : s.get? number = some ns) :
    (s.create stem).2.get? number = some ns := by
  rw [get?] at found
  simp [get?, create, List.find?_append, found]

end Session

inductive Event where
  | create (stem : String)
  | call (number : Nat) (call : Call)

/-- The namespaces of a run and every variable that they have issued, in the order of issue. -/
structure History where
  session : Session
  log : List Issued

namespace History

variable {h : History} {ns : Namespace} {number : Nat}

/-- Creates a namespace, or calls the one with a number. -/
def step (h : History) : Event → History
  | .create stem => { h with session := (h.session.create stem).2 }
  | .call number call =>
    match h.session.get? number with
    | none => h
    | some ns =>
      { session := h.session.put (ns.ask call).2
        log := h.log ++ (ns.issueAll call.references).1 }

theorem step_call (found : h.session.get? number = some ns) (call : Call) :
    h.step (.call number call) =
      ⟨h.session.put (ns.ask call).2, h.log ++ (ns.issueAll call.references).1⟩ := by
  simp only [step, found]

theorem step_call_missing (missing : h.session.get? number = none) (call : Call) :
    h.step (.call number call) = h := by
  simp only [step, missing]

def after (h : History) (events : List Event) : History := events.foldl step h

def run (events : List Event) : History := after ⟨.empty, []⟩ events

/-- The log tells all that the namespaces of a run remember. -/
structure Sound (h : History) : Prop where
  numbered : ∀ ns ∈ h.session.spaces, ns.number ≤ h.session.spaces.length
  placed : ∀ e ∈ h.log, e.space ≤ h.session.spaces.length
  tracked : ∀ ns ∈ h.session.spaces, ns.Tracked h.log
  unmixed : Unmixed h.log

namespace Sound

theorem create (sound : h.Sound) (stem : String) : (h.step (.create stem)).Sound := by
  have longer : (h.step (.create stem)).session.spaces.length = h.session.spaces.length + 1 := by
    simp [step, Session.create]
  constructor
  · intro ns member
    rw [longer]
    rcases List.mem_append.mp member with old | new
    · exact Nat.le_succ_of_le (sound.numbered ns old)
    · rw [List.mem_singleton.mp new]
      exact Nat.le_refl _
  · intro e member
    rw [longer]
    exact Nat.le_succ_of_le (sound.placed e member)
  · intro ns member
    rcases List.mem_append.mp member with old | new
    · exact sound.tracked ns old
    · rw [List.mem_singleton.mp new]
      apply Namespace.Tracked.create
      intro e there same
      have placed := sound.placed e there
      omega
  · exact sound.unmixed

theorem call (sound : h.Sound) (number : Nat) (call : Call) :
    (h.step (.call number call)).Sound := by
  cases found : h.session.get? number with
  | none => exact (step_call_missing found call).symm ▸ sound
  | some ns =>
    rw [step_call found]
    obtain ⟨member, _⟩ := Session.mem_of_get? found
    have grown : (ns.ask call).2.number = ns.number := Namespace.ask_grows.number
    obtain ⟨tracked, unmixed⟩ :=
      (sound.tracked ns member).issueAll sound.unmixed call.references
    have changed : ∀ next ∈ (h.session.put (ns.ask call).2).spaces,
        next = (ns.ask call).2 ∨ next ∈ h.session.spaces ∧ next.number ≠ ns.number := by
      intro next listed
      obtain ⟨old, there, same⟩ := List.mem_map.mp listed
      split at same
      · exact Or.inl same.symm
      · rename_i other
        subst same
        exact Or.inr ⟨there, fun same => other (same.trans grown.symm)⟩
    have size : (h.session.put (ns.ask call).2).spaces.length = h.session.spaces.length := by
      simp [Session.put]
    constructor
    · intro next listed
      rw [size]
      rcases changed next listed with same | ⟨there, _⟩
      · rw [same, grown]
        exact sound.numbered ns member
      · exact sound.numbered next there
    · intro e listed
      rw [size]
      rcases List.mem_append.mp listed with there | added
      · exact sound.placed e there
      · rw [Namespace.space_of_mem_issueAll added]
        exact sound.numbered ns member
    · intro next listed
      rcases changed next listed with same | ⟨there, other⟩
      · rw [same, Namespace.ask_serves.state]
        exact tracked
      · apply (sound.tracked next there).append_other
        intro e added
        rw [Namespace.space_of_mem_issueAll added]
        exact other.symm
    · exact unmixed

theorem after (sound : h.Sound) (events : List Event) : (h.after events).Sound := by
  induction events generalizing h with
  | nil => exact sound
  | cons event rest ih =>
    cases event with
    | create stem => exact ih (sound.create stem)
    | call number call => exact ih (sound.call number call)

theorem run (events : List Event) : (History.run events).Sound := by
  have start : (⟨.empty, []⟩ : History).Sound :=
    ⟨fun _ none => (by cases none), fun _ none => (by cases none), fun _ none => (by cases none),
      fun _ none => (by cases none), .nil⟩
  exact start.after events

end Sound

/-- No step takes a namespace away or makes it forget something. -/
theorem step_grows (found : h.session.get? number = some ns) (event : Event) :
    ∃ next, (h.step event).session.get? number = some next ∧ ns.Grows next := by
  cases event with
  | create stem => exact ⟨ns, Session.get?_create stem found, .refl ns⟩
  | call other call =>
    cases asked : h.session.get? other with
    | none => exact ⟨ns, (step_call_missing asked call).symm ▸ found, .refl ns⟩
    | some old =>
      have grown : (old.ask call).2.number = old.number := Namespace.ask_grows.number
      rw [step_call asked]
      dsimp only
      rw [Session.get?_put, found, Option.map_some]
      by_cases same : ns.number = old.number
      · have one : ns = old := by
          have number := (Session.mem_of_get? found).2
          have other := (Session.mem_of_get? asked).2
          rw [← number, same, other, asked] at found
          exact (Option.some.inj found).symm
        rw [if_pos (same.trans grown.symm)]
        exact ⟨_, rfl, one ▸ Namespace.ask_grows⟩
      · rw [if_neg (fun alike => same (alike.trans grown))]
        exact ⟨ns, rfl, .refl ns⟩

theorem after_grows (found : h.session.get? number = some ns) (more : List Event) :
    ∃ next, (h.after more).session.get? number = some next ∧ ns.Grows next := by
  induction more generalizing h ns with
  | nil => exact ⟨ns, found, .refl ns⟩
  | cons event rest ih =>
    obtain ⟨next, there, first⟩ := step_grows found event
    obtain ⟨last, kept, later⟩ := ih there
    exact ⟨last, kept, first.trans later⟩

theorem run_append (events more : List Event) :
    run (events ++ more) = (run events).after more :=
  List.foldl_append ..

end History

/-- A request for a new variable: for a fresh one, or for a name that was not asked for before. -/
def Issued.New (earlier : List Issued) (e : Issued) : Prop :=
  match e.reference with
  | .fresh _ => True
  | .named name => ∀ d ∈ earlier, d.space = e.space → d.reference ≠ .named name
  | _ => False

/-- What keeps the variables of a run apart, and what the log has of them. -/
structure History.Unconfused (h : History) : Prop where
  /-- The name table of a namespace has exactly the names that were asked for. -/
  table : ∀ number ns, h.session.get? number = some ns → ∀ name v,
    (ns.varOf? name = some v ↔ ⟨number, .named name, v⟩ ∈ h.log)
  distinct : ∀ number ns, h.session.get? number = some ns → ∀ name other v,
    ns.varOf? name = some v → ns.varOf? other = some v → name = other
  new : ∀ earlier e later, h.log = earlier ++ e :: later → e.New earlier →
    ∀ d ∈ earlier, d.var ≠ e.var
  apart : ∀ d ∈ h.log, ∀ e ∈ h.log, d.space ≠ e.space → d.var ≠ e.var
  /-- A namespace that is created has a number that none has. -/
  created : ∀ stem, h.session.get? (h.session.create stem).1.number = none
  boundary : ∀ number ns, h.session.get? number = some ns → ∀ v,
    (v ∈ ns.boundary ↔ v = ns.ret ∨ ∃ position, ⟨number, .param position, v⟩ ∈ h.log)

namespace History

variable {h : History}

theorem Sound.unconfused (sound : h.Sound) : h.Unconfused where
  table number ns found name v := by
    obtain ⟨member, same⟩ := Session.mem_of_get? found
    rw [(sound.tracked ns member).varOf?_iff, same]
  distinct number ns found name other v first second := by
    obtain ⟨member, _⟩ := Session.mem_of_get? found
    have tracked := sound.tracked ns member
    obtain ⟨_, references⟩ := sound.unmixed.same (tracked.varOf?_iff.mp first)
      (tracked.varOf?_iff.mp second) (Reference.lasting_named other) rfl
    exact Reference.named.inj references
  new earlier e later split new d member same := by
    have told := sound.unmixed.told
    rw [split] at told
    obtain ⟨spaces, references, lasting⟩ :=
      (List.pairwise_append.mp told).2.2 d member e List.mem_cons_self same
    unfold Issued.New at new
    rw [references] at lasting
    split at new
    · rename_i hint fresh
      exact lasting hint fresh
    · rename_i name named
      exact new d member spaces (references.trans named)
    · exact new
  apart d memberD e memberE other same := by
    have first := sound.unmixed.spaced d memberD
    rw [same, sound.unmixed.spaced e memberE] at first
    exact other (Int.ofNat.inj first).symm
  created stem := by
    apply List.find?_eq_none.mpr
    intro ns member same
    have number : ns.number = h.session.spaces.length + 1 := by
      simpa [Session.create, Namespace.create] using same
    have bounded := sound.numbered ns member
    omega
  boundary number ns found v := by
    obtain ⟨member, same⟩ := Session.mem_of_get? found
    rw [(sound.tracked ns member).mem_boundary_iff, same]

/-- Variables are never confused, whatever namespaces a run creates and however it calls them, with
calls that fail half-way: no request for a new variable gets one that was issued before, names and
namespaces keep their variables apart, a name keeps its variable for ever, and what a call returns
is in the log. -/
theorem variables_never_confused (events : List Event) :
    (run events).Unconfused ∧
      ∀ number ns, (run events).session.get? number = some ns →
        (∀ name v, ns.varOf? name = some v → ∀ more, ∃ next,
          (run (events ++ more)).session.get? number = some next ∧
            next.varOf? name = some v) ∧
        ∀ call, ∀ v ∈ (ns.ask call).1, ∃ r ∈ call.references,
          ⟨number, r, v⟩ ∈ (run (events ++ [.call number call])).log := by
  refine ⟨(Sound.run events).unconfused, ?_⟩
  intro number ns found
  constructor
  · intro name v named more
    obtain ⟨next, there, grows⟩ := after_grows found more
    exact ⟨next, run_append events more ▸ there, grows.varOf? named⟩
  · intro call v returned
    obtain ⟨e, member, var⟩ := Namespace.ask_serves.issued v returned
    have space := Namespace.space_of_mem_issueAll member
    have asked := Namespace.reference_of_mem_issueAll member
    rw [(Session.mem_of_get? found).2] at space
    refine ⟨e.reference, asked, ?_⟩
    subst space var
    rw [run_append]
    show _ ∈ ((run events).step (.call e.space call)).log
    rw [step_call found]
    exact List.mem_append_right _ member

-- The left side of the constraint stays issued although the right side is refused.
example :
    ((run [.create "x", .call 1 (.parse .twoPoint "a <= @b"), .call 1 (.fresh ""), .create "x",
      .call 2 (.operand .twoPoint "a")]).log.map Issued.var) =
      [⟨1, .fresh, 0⟩, ⟨1, .fresh, 1⟩, ⟨2, .fresh, 0⟩] := by
  decide +kernel

end History

end FlowTyping
