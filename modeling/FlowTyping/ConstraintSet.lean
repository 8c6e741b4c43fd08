import FlowTyping.Constraint

namespace FlowTyping

structure ConstraintSet where
  members : SortedSet Flow Constraint.order
  deriving DecidableEq

namespace ConstraintSet

def ofList (constraints : List Flow) : ConstraintSet := ⟨SortedSet.ofList constraints⟩

def toList (cs : ConstraintSet) : List Flow := cs.members.toList

def empty : ConstraintSet := ⟨.empty⟩

instance : Inhabited ConstraintSet := ⟨empty⟩

instance : Membership Flow ConstraintSet := ⟨fun cs c => c ∈ cs.members⟩

instance (c : Flow) (cs : ConstraintSet) : Decidable (c ∈ cs) :=
  inferInstanceAs (Decidable (c ∈ cs.members))

instance {P : Flow → Prop} [DecidablePred P] (cs : ConstraintSet) :
    Decidable (∀ c ∈ cs, P c) :=
  inferInstanceAs (Decidable (∀ c ∈ cs.members.toList, P c))

def size (cs : ConstraintSet) : Nat := cs.members.size

def insertAll (cs : ConstraintSet) (constraints : List Flow) : ConstraintSet :=
  ⟨cs.members.insertAll constraints⟩

def union (a b : ConstraintSet) : ConstraintSet := ⟨a.members.union b.members⟩

def filter (keep : Flow → Bool) (cs : ConstraintSet) : ConstraintSet := ⟨cs.members.filter keep⟩

def erase (cs : ConstraintSet) (c : Flow) : ConstraintSet :=
  cs.filter (fun d => decide (d ≠ c))

def vars (cs : ConstraintSet) : VarSet :=
  SortedSet.ofList (cs.toList.flatMap Flow.vars)

def literals (cs : ConstraintSet) : List Literal :=
  cs.toList.flatMap (fun c => [c.lhs, c.rhs].filterMap Operand.literal?)

def shown (labels : Labels) (cs : ConstraintSet) : String :=
  "\x7b" ++ ", ".intercalate (cs.toList.map (Flow.shown labels)) ++ "\x7d"

@[simp] theorem mem_ofList {c : Flow} {constraints : List Flow} :
    c ∈ ofList constraints ↔ c ∈ constraints :=
  SortedSet.mem_ofList

theorem mem_toList {c : Flow} {cs : ConstraintSet} : c ∈ cs.toList ↔ c ∈ cs := Iff.rfl

@[simp] theorem mem_union {c : Flow} {a b : ConstraintSet} : c ∈ a.union b ↔ c ∈ a ∨ c ∈ b :=
  SortedSet.mem_union

@[simp] theorem mem_filter {c : Flow} {keep : Flow → Bool} {cs : ConstraintSet} :
    c ∈ cs.filter keep ↔ c ∈ cs ∧ keep c = true :=
  SortedSet.mem_filter

@[simp] theorem mem_erase {c d : Flow} {cs : ConstraintSet} :
    c ∈ cs.erase d ↔ c ∈ cs ∧ c ≠ d := by
  simp [erase]

theorem filter_subset {cs : ConstraintSet} (keep : Flow → Bool) : ∀ c ∈ cs.filter keep, c ∈ cs :=
  fun _ member => (mem_filter.mp member).1

theorem erase_subset {cs : ConstraintSet} (c : Flow) : ∀ d ∈ cs.erase c, d ∈ cs :=
  fun _ member => (mem_erase.mp member).1

theorem ext_mem {a b : ConstraintSet} (same : ∀ c, c ∈ a ↔ c ∈ b) : a = b := by
  obtain ⟨left⟩ := a
  obtain ⟨right⟩ := b
  exact congrArg ConstraintSet.mk (SortedSet.ext_mem same)

end ConstraintSet

end FlowTyping
