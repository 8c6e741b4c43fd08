import FlowTyping.Constraint.Reader
import FlowTyping.Proofs.IssuedVariables

namespace FlowTyping

/-- The references that a reading asks for, and whether it gets to its end. -/
structure Trail where
  references : List Reference
  done : Bool

/-- A second reading follows if the first one gets to its end. -/
def Trail.andThen (first second : Trail) : Trail :=
  if first.done then ⟨first.references ++ second.references, second.done⟩ else first

def operandTrail (domain : Domain) (text : String) : Trail :=
  let word := Text.strip text
  if word = "?" then ⟨[], true⟩
  else if word = "@return" then ⟨[.ret], true⟩
  else if word = "@pc" then ⟨[.pc], true⟩
  else
    match paramReference? word.toList with
    | some (.ok position) => ⟨[.param position], true⟩
    | some (.error _) => ⟨[], false⟩
    | none =>
      if word.toList.head? = some '@' then ⟨[], false⟩
      else
        match domain.parse word with
        | .ok _ => ⟨[], true⟩
        | .error _ => if isName word.toList then ⟨[.named word], true⟩ else ⟨[], false⟩

def constraintTrail (domain : Domain) (text : String) : Trail :=
  match Constraint.split? text with
  | none => ⟨[], false⟩
  | some (left, _, right) => (operandTrail domain left).andThen (operandTrail domain right)

def constraintsTrail (domain : Domain) : List String → Trail
  | [] => ⟨[], true⟩
  | line :: rest =>
    if Text.isBlankText line then constraintsTrail domain rest
    else (constraintTrail domain line).andThen (constraintsTrail domain rest)

theorem mem_vars_make {a b : Operand} {kind : Kind} {v : TypeVar} :
    v ∈ Flow.vars (Constraint.make a kind b) ↔ a = .var v ∨ b = .var v := by
  simp only [Flow.vars, List.mem_filterMap, Operand.var?_eq_some, exists_eq_right, List.mem_cons,
    List.not_mem_nil, or_false]
  rcases Constraint.make_sides a b kind with ⟨lhs, rhs⟩ | ⟨_, lhs, rhs⟩
  · rw [lhs, rhs, eq_comm, @eq_comm _ _ b]
  · rw [lhs, rhs, or_comm, eq_comm, @eq_comm _ _ b]

namespace Namespace

variable {ns next : Namespace} {ε α β : Type} {trail second : Trail}
variable {vars : α → List TypeVar}

/-- A result was reached along a trail: its references were asked for one after the other, the
result is no error exactly if the trail gets to its end, and its variables were issued on it. -/
structure Follows (ns : Namespace) (trail : Trail) (vars : α → List TypeVar)
    (result : Except ε α × Namespace) : Prop where
  state : result.2 = (ns.issueAll trail.references).2
  done : trail.done = result.1.isOk
  issued : ∀ a, result.1 = .ok a → ∀ v ∈ vars a,
    ∃ e ∈ (ns.issueAll trail.references).1, e.var = v

theorem Follows.still_error (e : ε) : ns.Follows ⟨[], false⟩ vars (.error e, ns) :=
  ⟨rfl, rfl, fun _ none => by cases none⟩

theorem Follows.andThen_error {e : ε} (follows : ns.Follows trail vars (.error e, next))
    {other : β → List TypeVar} :
    ns.Follows (trail.andThen second) other ((.error e, next) : Except ε β × Namespace) := by
  have stopped : trail.andThen second = trail := by
    rw [Trail.andThen, follows.done]
    rfl
  rw [stopped]
  exact ⟨follows.state, follows.done, fun _ none => by cases none⟩

/-- After a reading that succeeds the next one goes on, and what both have issued is issued. -/
theorem Follows.andThen {a : α} {other : β → List TypeVar} {result : Except ε β × Namespace}
    (first : ns.Follows trail vars ((.ok a, next) : Except ε α × Namespace))
    (later : next.Follows second other result) :
    ns.Follows (trail.andThen second) (fun b => vars a ++ other b) result := by
  have continued : trail.andThen second =
      ⟨trail.references ++ second.references, second.done⟩ := by
    rw [Trail.andThen, first.done]
    rfl
  have state := first.state
  dsimp only at state
  subst state
  rw [continued]
  refine ⟨?_, later.done, ?_⟩
  · rw [issueAll_append]
    exact later.state
  · intro b given v listed
    rw [issueAll_append]
    rcases List.mem_append.mp listed with there | there
    · obtain ⟨e, member, var⟩ := first.issued a rfl v there
      exact ⟨e, List.mem_append_left _ member, var⟩
    · obtain ⟨e, member, var⟩ := later.issued b given v there
      exact ⟨e, List.mem_append_right _ member, var⟩

/-- A result that is made of another and has no other variables was reached the same way. -/
theorem Follows.map {result : Except ε α × Namespace} (follows : ns.Follows trail vars result)
    (f : α → β) (other : β → List TypeVar) (fewer : ∀ a, ∀ v ∈ other (f a), v ∈ vars a) :
    ns.Follows trail other (result.1.map f, result.2) := by
  refine ⟨follows.state, ?_, ?_⟩
  · rw [follows.done]
    cases result.1 <;> rfl
  · intro b given v listed
    cases found : result.1 with
    | error e =>
      rw [found] at given
      cases given
    | ok a =>
      rw [found] at given
      obtain rfl := Except.ok.inj given
      exact follows.issued a found v (fewer a v listed)

theorem follows_literal (l : Literal) : ns.Follows ⟨[], true⟩ (fun n => n.var?.toList)
    ((.ok (.literal l), ns) : Except ParseError Operand × Namespace) := by
  refine ⟨rfl, rfl, ?_⟩
  intro n given v listed
  obtain rfl := Except.ok.inj given
  cases listed

theorem follows_issue (r : Reference) : ns.Follows ⟨[r], true⟩ (fun n => n.var?.toList)
    ((.ok (.var (ns.issue r).1), (ns.issue r).2) : Except ParseError Operand × Namespace) := by
  refine ⟨rfl, rfl, ?_⟩
  intro n given v listed
  obtain rfl := Except.ok.inj given
  have var : v = (ns.issue r).1 := by simpa [Operand.var?] using listed
  exact ⟨_, List.mem_cons_self, var.symm⟩

theorem readOperand_follows (ns : Namespace) (domain : Domain) (text : String) :
    ns.Follows (operandTrail domain text) (fun n => n.var?.toList)
      (ns.readOperand domain text) := by
  unfold readOperand operandTrail
  generalize Text.strip text = word
  dsimp only
  split
  · exact follows_literal .dyn
  split
  · exact follows_issue .ret
  split
  · exact follows_issue .pc
  cases paramReference? word.toList with
  | some reference =>
    cases reference with
    | ok position => exact follows_issue (.param position)
    | error refusal => exact .still_error _
  | none =>
    dsimp only
    split
    · exact .still_error _
    cases domain.parse word with
    | ok level => exact follows_literal (.level level)
    | error e =>
      dsimp only
      split
      · exact follows_issue (.named word)
      · exact .still_error _

theorem readConstraint_follows (ns : Namespace) (domain : Domain) (text : String) :
    ns.Follows (constraintTrail domain text) Flow.vars (ns.readConstraint domain text) := by
  unfold readConstraint constraintTrail
  cases Constraint.split? text with
  | none => exact .still_error _
  | some parts =>
    obtain ⟨left, kind, right⟩ := parts
    have first := readOperand_follows ns domain left
    rcases read : ns.readOperand domain left with ⟨e | lhs, next⟩
    · simp only [read] at first ⊢
      exact first.andThen_error
    · simp only [read] at first ⊢
      have whole := first.andThen (readOperand_follows next domain right)
      have made := whole.map (Constraint.make lhs kind) Flow.vars fun rhs v listed => by
        simpa [Option.mem_toList, Operand.var?_eq_some] using mem_vars_make.mp listed
      rcases read' : next.readOperand domain right with ⟨e | rhs, last⟩ <;> rw [read'] at made <;>
        exact made

theorem readConstraints_follows (ns : Namespace) (domain : Domain) (lines : List String) :
    ns.Follows (constraintsTrail domain lines) (fun cs => cs.flatMap Flow.vars)
      (ns.readConstraints domain lines) := by
  induction lines generalizing ns with
  | nil => exact ⟨rfl, rfl, fun cs given v listed => by cases given; cases listed⟩
  | cons line rest ih =>
    unfold readConstraints constraintsTrail
    split
    · exact ih ns
    · have first := readConstraint_follows ns domain line
      rcases read : ns.readConstraint domain line with ⟨e | c, next⟩
      · simp only [read] at first ⊢
        exact first.andThen_error
      · simp only [read] at first ⊢
        have whole := first.andThen (ih next)
        have made := whole.map (List.cons c) (fun cs => cs.flatMap Flow.vars)
          fun cs v listed => by simpa using listed
        rcases read' : next.readConstraints domain rest with ⟨e | cs, last⟩ <;>
          rw [read'] at made <;> exact made

end Namespace

end FlowTyping
