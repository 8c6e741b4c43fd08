namespace FlowTyping

universe u v

/-- Keys with their values, each key once, in order of first writing. -/
abbrev Table (κ : Type u) (ν : Type v) := List (κ × ν)

namespace Table

variable {κ : Type u} {ν : Type v} [DecidableEq κ]

def put (key : κ) (value : ν) : Table κ ν → Table κ ν
  | [] => [(key, value)]
  | (there, old) :: rest =>
    if there = key then (there, value) :: rest else (there, old) :: put key value rest

def putAll (pairs : List (κ × ν)) (table : Table κ ν) : Table κ ν :=
  pairs.foldl (fun table pair => put pair.1 pair.2 table) table

def find? (table : Table κ ν) (key : κ) : Option ν :=
  (List.find? (fun entry => decide (entry.1 = key)) table).map Prod.snd

theorem find?_put (key other : κ) (value : ν) (table : Table κ ν) :
    find? (put key value table) other = if key = other then some value else find? table other := by
  induction table with
  | nil => by_cases same : key = other <;> simp [put, find?, same]
  | cons entry rest ih =>
    obtain ⟨there, old⟩ := entry
    by_cases here : there = key
    · subst here
      by_cases same : there = other <;> simp [put, find?, same]
    · by_cases same : there = other
      · subst same
        have apart : ¬ key = there := fun equal => here equal.symm
        simp [put, find?, here, apart]
      · have rest' : find? (put key value ((there, old) :: rest)) other =
            find? (put key value rest) other := by
          simp [put, find?, here, same]
        rw [rest', ih]
        simp [find?, same]

/-- Writing a value adds its key if it is new, and moves no other. -/
theorem keys_put (key : κ) (value : ν) (table : Table κ ν) :
    (put key value table).map Prod.fst =
      if key ∈ table.map Prod.fst then table.map Prod.fst else table.map Prod.fst ++ [key] := by
  induction table with
  | nil => rfl
  | cons entry rest ih =>
    obtain ⟨there, old⟩ := entry
    by_cases here : there = key
    · simp [put, here]
    · have apart : ¬ key = there := fun equal => here equal.symm
      simp only [put, here, if_false, List.map_cons, ih, List.mem_cons, apart, false_or]
      split <;> simp

theorem mem_keys_iff {table : Table κ ν} {key : κ} :
    key ∈ table.map Prod.fst ↔ ∃ value, find? table key = some value := by
  unfold find?
  rw [← Option.isSome_iff_exists, Option.isSome_map, List.find?_isSome]
  simp

theorem find?_of_mem {table : Table κ ν} {key : κ} {value : ν} (member : (key, value) ∈ table)
    (only : ∀ other, (key, other) ∈ table → other = value) : find? table key = some value := by
  unfold find?
  cases found : List.find? (fun entry => decide (entry.1 = key)) table with
  | none =>
    have missing := List.find?_eq_none.mp found (key, value) member
    simp at missing
  | some entry =>
    obtain ⟨there, other⟩ := entry
    obtain rfl : there = key := by simpa using List.find?_some found
    exact congrArg some (only other (List.mem_of_find?_eq_some found))

end Table

end FlowTyping
