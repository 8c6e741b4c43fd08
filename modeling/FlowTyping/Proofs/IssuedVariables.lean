import Mathlib.Data.List.Pairwise
import FlowTyping.Namespace

/-!
What a namespace issues. Whatever is asked of a namespace comes down to single references, and a
log of them with the variables that were issued tells all that the namespace remembers. Two
records of a log have the same variable only if the same namespace was asked for the same, and
not for a new variable.
-/

namespace FlowTyping

/-- What a namespace can be asked for. -/
inductive Reference where
  | ret
  | pc
  | param (position : Nat)
  | fresh (hint : String)
  | named (name : String)
  deriving DecidableEq

/-- Whoever asks again gets the same variable. -/
def Reference.Lasting (r : Reference) : Prop := ∀ hint, r ≠ .fresh hint

theorem Reference.lasting_named (name : String) : (Reference.named name).Lasting :=
  fun _ => Reference.noConfusion

/-- A variable with the number of the namespace that issued it and with what it was issued for. -/
structure Issued where
  space : Nat
  reference : Reference
  var : TypeVar
  deriving DecidableEq

/-- The records have different variables, unless the same was asked for. -/
def Issued.Told (e d : Issued) : Prop :=
  e.var = d.var → e.space = d.space ∧ e.reference = d.reference ∧ e.reference.Lasting

instance : Std.Symm Issued.Told where
  symm e d told same := by
    obtain ⟨spaces, references, lasting⟩ := told same.symm
    exact ⟨spaces.symm, references.symm, references ▸ lasting⟩

/-- No variable of a log is confused with another. -/
structure Unmixed (log : List Issued) : Prop where
  spaced : ∀ e ∈ log, e.var.space = e.space
  told : log.Pairwise Issued.Told

/-- A variable that was once issued for something lasting was issued for nothing else. -/
theorem Unmixed.same {log : List Issued} (unmixed : Unmixed log) {e d : Issued} (member : e ∈ log)
    (there : d ∈ log) (lasting : d.reference.Lasting) (vars : e.var = d.var) :
    e.space = d.space ∧ e.reference = d.reference := by
  by_cases same : e = d
  · subst same
    exact ⟨rfl, rfl⟩
  · have told := unmixed.told.forall member there same
    obtain ⟨spaces, references, _⟩ := told vars
    exact ⟨spaces, references⟩

namespace Namespace

variable {ns next last : Namespace} {r : Reference} {v : TypeVar} {log : List Issued}
variable {name : String} {index position : Nat} {references : List Reference}

def issue (ns : Namespace) : Reference → TypeVar × Namespace
  | .ret => (ns.ret, ns)
  | .pc => (ns.pc, ns)
  | .param position => ns.param position
  | .fresh hint => ns.fresh hint
  | .named name => ns.named name

def issueAll (ns : Namespace) : List Reference → List Issued × Namespace
  | [] => ([], ns)
  | r :: rest =>
    let (var, next) := ns.issue r
    let (later, last) := next.issueAll rest
    (⟨ns.number, r, var⟩ :: later, last)

def varOf? (ns : Namespace) (name : String) : Option TypeVar :=
  (ns.names.lookup name).map ns.freshVar

theorem freshVar_inj {i j : Nat} : ns.freshVar i = ns.freshVar j ↔ i = j := by
  constructor
  · intro same
    exact Int.ofNat.inj (congrArg TypeVar.index same)
  · intro same
    rw [same]

theorem varOf?_eq_some :
    ns.varOf? name = some v ↔ ∃ index, ns.names.lookup name = some index ∧
      ns.freshVar index = v := by
  rw [varOf?, Option.map_eq_some_iff]

/-- What a request can do: it finds what it asks for, or it remembers something new. -/
inductive Issues (ns : Namespace) : Reference → TypeVar → Namespace → Prop
  | ret : Issues ns .ret ns.ret ns
  | pc : Issues ns .pc ns.pc ns
  | paramAgain {position : Nat} (asked : position ∈ ns.params) :
      Issues ns (.param position) (ns.paramVar position) ns
  | paramFirst {position : Nat} (unasked : position ∉ ns.params) :
      Issues ns (.param position) (ns.paramVar position)
        { ns with params := ns.params ++ [position] }
  | fresh (hint : String) : Issues ns (.fresh hint) (ns.freshVar ns.hints.length) (ns.fresh hint).2
  | namedAgain {name : String} {index : Nat} (found : ns.names.lookup name = some index) :
      Issues ns (.named name) (ns.freshVar index) ns
  | namedFirst {name : String} (missing : ns.names.lookup name = none) :
      Issues ns (.named name) (ns.freshVar ns.hints.length)
        { (ns.fresh name).2 with names := ns.names ++ [(name, ns.hints.length)] }

theorem issue_issues (ns : Namespace) (r : Reference) :
    ns.Issues r (ns.issue r).1 (ns.issue r).2 := by
  cases r with
  | ret => exact .ret
  | pc => exact .pc
  | param position =>
    by_cases asked : position ∈ ns.params
    · simpa [issue, param, asked] using Issues.paramAgain asked
    · simpa [issue, param, asked] using Issues.paramFirst asked
  | fresh hint => exact .fresh hint
  | named name =>
    cases found : ns.names.lookup name with
    | some index => simpa [issue, named, found] using Issues.namedAgain found
    | none =>
      simp only [issue, named, found]
      exact .namedFirst found

theorem hints_length_fresh (hint : String) :
    (ns.fresh hint).2.hints.length = ns.hints.length + 1 := by
  simp [fresh]

/-- What a namespace remembers is still remembered when it has issued more. -/
structure Grows (ns next : Namespace) : Prop where
  number : next.number = ns.number
  hints : ns.hints.length ≤ next.hints.length
  names : ∀ name index, ns.names.lookup name = some index → next.names.lookup name = some index
  params : ∀ position ∈ ns.params, position ∈ next.params

theorem Grows.refl (ns : Namespace) : ns.Grows ns :=
  ⟨rfl, Nat.le_refl _, fun _ _ found => found, fun _ asked => asked⟩

theorem Grows.trans (first : ns.Grows next) (second : next.Grows last) : ns.Grows last where
  number := second.number.trans first.number
  hints := Nat.le_trans first.hints second.hints
  names name index found := second.names name index (first.names name index found)
  params position asked := second.params position (first.params position asked)

theorem Grows.varOf? (grows : ns.Grows next) (found : ns.varOf? name = some v) :
    next.varOf? name = some v := by
  obtain ⟨index, listed, var⟩ := varOf?_eq_some.mp found
  refine varOf?_eq_some.mpr ⟨index, grows.names name index listed, ?_⟩
  rw [← var, freshVar, freshVar, grows.number]

theorem Issues.grows (step : ns.Issues r v next) : ns.Grows next := by
  have longer : ∀ hint, ns.hints.length ≤ (ns.fresh hint).2.hints.length := by
    simp [hints_length_fresh]
  cases step with
  | paramFirst _ =>
    exact ⟨rfl, Nat.le_refl _, fun _ _ found => found, fun _ => List.mem_append_left _⟩
  | fresh hint => exact ⟨rfl, longer hint, fun _ _ found => found, fun _ asked => asked⟩
  | namedFirst missing =>
    refine ⟨rfl, longer _, ?_, fun _ asked => asked⟩
    intro other index found
    simp [List.lookup_append, found]
  | _ => exact Grows.refl ns

theorem issueAll_grows : ns.Grows (ns.issueAll references).2 := by
  induction references generalizing ns with
  | nil => exact Grows.refl ns
  | cons r rest ih => exact (issue_issues ns r).grows.trans ih

theorem issueAll_append (first second : List Reference) :
    ns.issueAll (first ++ second) =
      ((ns.issueAll first).1 ++ ((ns.issueAll first).2.issueAll second).1,
        ((ns.issueAll first).2.issueAll second).2) := by
  induction first generalizing ns with
  | nil => rfl
  | cons r rest ih => simp [issueAll, ih]

theorem space_of_mem_issueAll {e : Issued} (member : e ∈ (ns.issueAll references).1) :
    e.space = ns.number := by
  induction references generalizing ns with
  | nil => cases member
  | cons r rest ih =>
    rcases List.mem_cons.mp member with same | later
    · rw [same]
    · exact (ih later).trans (issue_issues ns r).grows.number

theorem reference_of_mem_issueAll {e : Issued} (member : e ∈ (ns.issueAll references).1) :
    e.reference ∈ references := by
  induction references generalizing ns with
  | nil => cases member
  | cons r rest ih =>
    rcases List.mem_cons.mp member with same | later
    · rw [same]
      exact List.mem_cons_self
    · exact List.mem_cons_of_mem r (ih later)

/-- A reference stands for a variable of the namespace. -/
inductive Stands (ns : Namespace) : Reference → TypeVar → Prop
  | ret : Stands ns .ret ns.ret
  | pc : Stands ns .pc ns.pc
  | param {position : Nat} (asked : position ∈ ns.params) :
      Stands ns (.param position) (ns.paramVar position)
  | fresh (hint : String) {index : Nat} (issued : index < ns.hints.length) :
      Stands ns (.fresh hint) (ns.freshVar index)
  | named {name : String} {index : Nat} (found : ns.names.lookup name = some index)
      (issued : index < ns.hints.length) : Stands ns (.named name) (ns.freshVar index)

theorem Stands.space (stands : ns.Stands r v) : v.space = ns.number := by
  cases stands <;> rfl

/-- The variable after all those that were issued stands for nothing yet. -/
theorem Stands.not_new : ¬ ns.Stands r (ns.freshVar ns.hints.length) := by
  intro stands
  generalize given : ns.freshVar ns.hints.length = w at stands
  cases stands with
  | ret => cases given
  | pc => cases given
  | param _ => cases given
  | fresh _ issued => exact absurd (freshVar_inj.mp given) (Nat.ne_of_gt issued)
  | named _ issued => exact absurd (freshVar_inj.mp given) (Nat.ne_of_gt issued)

/-- What is not inside the unit stands for one thing only. -/
theorem Stands.reference_eq {r' : Reference} (first : ns.Stands r v) (second : ns.Stands r' v)
    (outside : v.kind ≠ .fresh) : r = r' := by
  generalize same : v = w at second
  cases first with
  | ret => cases second <;> first | rfl | cases same
  | pc => cases second <;> first | rfl | cases same
  | param _ =>
    cases second with
    | param _ =>
      have positions : Int.ofNat _ = Int.ofNat _ := congrArg TypeVar.index same
      rw [Int.ofNat.inj positions]
    | _ => cases same
  | fresh _ _ => exact absurd rfl outside
  | named _ _ => exact absurd rfl outside

theorem Stands.mono (stands : ns.Stands r v) (grows : ns.Grows next) : next.Stands r v := by
  have vars : next.ret = ns.ret ∧ next.pc = ns.pc ∧ next.paramVar = ns.paramVar ∧
      next.freshVar = ns.freshVar := by
    simp only [Namespace.ret, Namespace.pc, funext_iff, paramVar, freshVar, grows.number,
      implies_true, and_self]
  obtain ⟨ret, pc, param, fresh⟩ := vars
  cases stands with
  | ret => exact ret ▸ Stands.ret
  | pc => exact pc ▸ Stands.pc
  | param asked => exact param ▸ Stands.param (grows.params _ asked)
  | fresh hint issued => exact fresh ▸ Stands.fresh hint (Nat.lt_of_lt_of_le issued grows.hints)
  | named found issued =>
    exact fresh ▸ Stands.named (grows.names _ _ found) (Nat.lt_of_lt_of_le issued grows.hints)

/-- A log has all that a namespace was asked for and, of what the namespace issued, nothing that
it does not remember. -/
structure Tracked (ns : Namespace) (log : List Issued) : Prop where
  stands : ∀ e ∈ log, e.space = ns.number → ns.Stands e.reference e.var
  names : ∀ name index, ns.names.lookup name = some index →
    index < ns.hints.length ∧ ⟨ns.number, .named name, ns.freshVar index⟩ ∈ log
  params : ∀ position ∈ ns.params, ⟨ns.number, .param position, ns.paramVar position⟩ ∈ log

namespace Tracked

theorem create (number : Nat) (stem : String) (unused : ∀ e ∈ log, e.space ≠ number) :
    (Namespace.create number stem).Tracked log where
  stands e member same := absurd same (unused e member)
  names _ _ found := by cases found
  params _ asked := absurd asked List.not_mem_nil

theorem append_other (tracked : ns.Tracked log) {more : List Issued}
    (others : ∀ e ∈ more, e.space ≠ ns.number) : ns.Tracked (log ++ more) where
  stands e member same := by
    rcases List.mem_append.mp member with there | added
    · exact tracked.stands e there same
    · exact absurd same (others e added)
  names name index found := by
    obtain ⟨issued, member⟩ := tracked.names name index found
    exact ⟨issued, List.mem_append_left _ member⟩
  params position asked := List.mem_append_left _ (tracked.params position asked)

section Step

variable (step : ns.Issues r v next) (tracked : ns.Tracked log)
include step tracked

theorem issued_stands : next.Stands r v := by
  have issued : ∀ hint, ns.hints.length < (ns.fresh hint).2.hints.length := by
    simp [hints_length_fresh]
  cases step with
  | ret => exact .ret
  | pc => exact .pc
  | paramAgain asked => exact .param asked
  | paramFirst _ => exact Stands.param (List.mem_append_right _ List.mem_cons_self)
  | fresh hint => exact Stands.fresh hint (issued hint)
  | namedAgain found => exact .named found (tracked.names _ _ found).1
  | namedFirst missing =>
    refine Stands.named ?_ (issued _)
    simp [List.lookup_append, missing]

/-- A variable that was issued before is issued again only to who asks for the same. -/
theorem issued_told (unmixed : Unmixed log) {e : Issued} (member : e ∈ log) :
    e.Told ⟨ns.number, r, v⟩ := by
  intro same
  dsimp only at same
  have spaces : e.space = ns.number := by
    have placed := unmixed.spaced e member
    rw [same, (issued_stands step tracked).space, step.grows.number] at placed
    exact (Int.ofNat.inj placed).symm
  have stands := tracked.stands e member spaces
  rw [same] at stands
  have outside : v.kind ≠ .fresh → e.reference = r :=
    (stands.mono step.grows).reference_eq (issued_stands step tracked)
  suffices agree : e.reference = r ∧ r.Lasting from ⟨spaces, agree.1, agree.1 ▸ agree.2⟩
  cases step with
  | fresh hint => exact absurd stands Stands.not_new
  | @namedAgain name index found =>
    have entry := (tracked.names name index found).2
    have lasting := Reference.lasting_named name
    exact ⟨(unmixed.same member entry lasting same).2, lasting⟩
  | namedFirst _ => exact absurd stands Stands.not_new
  | _ => exact ⟨outside VarKind.noConfusion, fun _ => Reference.noConfusion⟩

/-- One request more, and the log still tells the same. -/
theorem issued : next.Tracked (log ++ [⟨ns.number, r, v⟩]) where
  stands e member same := by
    rcases List.mem_append.mp member with there | added
    · exact (tracked.stands e there (same.trans step.grows.number)).mono step.grows
    · rw [List.mem_singleton.mp added]
      exact issued_stands step tracked
  names name index found := by
    have known : ns.names.lookup name = some index → index < next.hints.length ∧
        ⟨ns.number, .named name, ns.freshVar index⟩ ∈ log ++ [⟨ns.number, r, v⟩] := by
      intro known
      obtain ⟨before, member⟩ := tracked.names name index known
      exact ⟨Nat.lt_of_lt_of_le before step.grows.hints, List.mem_append_left _ member⟩
    cases step with
    | @namedFirst first missing =>
      by_cases same : name = first
      · subst same
        obtain rfl : ns.hints.length = index := by simpa [List.lookup_append, missing] using found
        refine ⟨?_, List.mem_append_right _ List.mem_cons_self⟩
        simp [hints_length_fresh]
      · have different : (name == first) = false := beq_eq_false_iff_ne.mpr same
        exact known (by simpa [List.lookup_append, List.lookup_cons, different] using found)
    | _ => exact known found
  params position asked := by
    have known : position ∈ ns.params →
        ⟨ns.number, .param position, ns.paramVar position⟩ ∈ log ++ [⟨ns.number, r, v⟩] :=
      fun known => List.mem_append_left _ (tracked.params position known)
    cases step with
    | paramFirst _ =>
      rcases List.mem_append.mp asked with there | new
      · exact known there
      · rw [List.mem_singleton.mp new]
        exact List.mem_append_right _ List.mem_cons_self
    | _ => exact known asked

theorem unmixed_issued (unmixed : Unmixed log) : Unmixed (log ++ [⟨ns.number, r, v⟩]) where
  spaced e member := by
    rcases List.mem_append.mp member with there | added
    · exact unmixed.spaced e there
    · rw [List.mem_singleton.mp added, (issued_stands step tracked).space, step.grows.number]
  told := by
    refine List.pairwise_append.mpr ⟨unmixed.told, List.pairwise_singleton _ _, ?_⟩
    intro e member d added
    rw [List.mem_singleton.mp added]
    exact issued_told step tracked unmixed member

end Step

/-- However many references are asked for, the log still tells all, and nothing is confused. -/
theorem issueAll (tracked : ns.Tracked log) (unmixed : Unmixed log) (references : List Reference) :
    (ns.issueAll references).2.Tracked (log ++ (ns.issueAll references).1) ∧
      Unmixed (log ++ (ns.issueAll references).1) := by
  induction references generalizing ns log with
  | nil => simpa [Namespace.issueAll] using ⟨tracked, unmixed⟩
  | cons r rest ih =>
    have step := issue_issues ns r
    have whole := ih (issued step tracked) (unmixed_issued step tracked unmixed)
    rwa [List.append_assoc, List.singleton_append] at whole

theorem varOf?_iff (tracked : ns.Tracked log) :
    ns.varOf? name = some v ↔ ⟨ns.number, .named name, v⟩ ∈ log := by
  rw [varOf?_eq_some]
  constructor
  · rintro ⟨index, found, var⟩
    exact var ▸ (tracked.names name index found).2
  · intro member
    have stands := tracked.stands _ member rfl
    cases stands with
    | named found _ => exact ⟨_, found, rfl⟩

theorem mem_boundary_iff (tracked : ns.Tracked log) :
    v ∈ ns.boundary ↔ v = ns.ret ∨ ∃ position, ⟨ns.number, .param position, v⟩ ∈ log := by
  rw [boundary, SortedSet.mem_ofList, List.mem_cons, List.mem_map]
  apply or_congr_right
  constructor
  · rintro ⟨position, asked, var⟩
    exact ⟨position, var ▸ tracked.params position asked⟩
  · rintro ⟨position, member⟩
    have stands := tracked.stands _ member rfl
    cases stands with
    | param asked => exact ⟨_, asked, rfl⟩

end Tracked

end Namespace

end FlowTyping
