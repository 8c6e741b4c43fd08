import FlowTyping.Proofs.WriteOnce
import FlowTyping.Signature.Shared
import Mathlib.Data.List.Induction

/-!
What the clients of a shared registry see. However their requests interleave, the replies are
those of one client that asks for the same in the order of the sections. A registration
decides on a signature that it has taken away, and the one under the name is still the same when
it does: nothing that is under a name is ever replaced or removed.
-/

namespace FlowTyping.Registry

universe u

variable {γ : Type u} {r : Registry} {request : Request} {key : String}
variable {signature stored : Signature}
variable {visits earlier later : List (Visit γ)} {visit : Visit γ}

/-- What a request works out from what it has taken away is the reply to one that no other comes
in between. -/
theorem enter_serve (r : Registry) (request : Request) :
    (r.enter request).1.reply = (r.serve request).1 ∧
      (r.enter request).2 = (r.serve request).2 := by
  cases request with
  | register key signature =>
    cases found : r.get? key with
    | none => simp [enter, serve, register, found, Held.reply]
    | some existing =>
      by_cases same : existing = signature <;>
        simp [enter, serve, register, found, Held.reply, same]
  | lookup key =>
    cases found : r.get? key <;> simp [enter, serve, lookup, found, Held.reply, Reply.of]
  | get | contains | size | keys => exact ⟨rfl, rfl⟩

/-- What a registration can come to: the name was free, or had the signature already, or it is
refused. -/
theorem serve_register (r : Registry) (key : String) (signature : Signature) :
    (r.get? key = none ∧ r.serve (.register key signature) =
      (.signature signature, ⟨Table.put key signature r.entries⟩)) ∨
    (r.get? key = some signature ∧ r.serve (.register key signature) = (.signature signature, r)) ∨
    ∃ existing, existing ≠ signature ∧ r.get? key = some existing ∧
      r.serve (.register key signature) = (.refused (.conflict key existing signature), r) := by
  cases found : r.get? key with
  | none => exact Or.inl ⟨rfl, by simp [serve, register, found]⟩
  | some existing =>
    by_cases same : existing = signature
    · exact Or.inr (Or.inl ⟨by rw [same], by simp [serve, register, found, same]⟩)
    · exact Or.inr (Or.inr ⟨existing, same, rfl, by simp [serve, register, found, same]⟩)

theorem later_serve (r : Registry) (request : Request) : Later r (r.serve request).2 := by
  cases request with
  | register key signature =>
    cases registered : r.register key signature with
    | error error =>
      have same : (r.serve (.register key signature)).2 = r := by simp [serve, registered]
      rw [same]
      exact .refl
    | ok result =>
      have same : (r.serve (.register key signature)).2 = result.2 := by simp [serve, registered]
      rw [same]
      exact .single ⟨key, signature, result.1, registered⟩
  | get | lookup | contains | size | keys => exact .refl

/-- What is under a name was there before, or has just been registered. -/
theorem get?_serve_iff :
    (r.serve request).2.get? key = some stored ↔ r.get? key = some stored ∨
      request = .register key stored ∧ ∃ signature, (r.serve request).1 = .signature signature := by
  constructor
  · intro found
    cases request with
    | register other signature =>
      rcases serve_register r other signature with ⟨free, result⟩ | ⟨_, result⟩ | ⟨_, _, _, result⟩
      · rw [result, get?, Table.find?_put] at found
        by_cases same : other = key
        · rw [if_pos same, Option.some.injEq] at found
          subst same found
          exact Or.inr ⟨rfl, signature, by rw [result]⟩
        · rw [if_neg same] at found
          exact Or.inl found
      · rw [result] at found
        exact Or.inl found
      · rw [result] at found
        exact Or.inl found
    | get | lookup | contains | size | keys => exact Or.inl found
  · intro known
    rcases known with found | ⟨asked, accepted⟩
    · exact (later_serve r request).get? found
    · subst asked
      obtain ⟨signature, reply⟩ := accepted
      rcases serve_register r key stored with ⟨_, result⟩ | ⟨found, result⟩ | ⟨_, _, _, result⟩
      · rw [result, get?, Table.find?_put, if_pos rfl]
      · rw [result]
        exact found
      · rw [result] at reply
        cases reply

theorem mem_keys_iff : key ∈ r.keys ↔ ∃ signature, r.get? key = some signature := by
  rw [keys, SortedSet.mem_ofList]
  exact Table.mem_keys_iff

/-- No name stands twice among the entries. -/
def Distinct (r : Registry) : Prop := (r.entries.map Prod.fst).Nodup

theorem Distinct.serve (distinct : r.Distinct) (request : Request) :
    (r.serve request).2.Distinct := by
  cases request with
  | register key signature =>
    rcases serve_register r key signature with ⟨_, result⟩ | ⟨_, result⟩ | ⟨_, _, _, result⟩
    · rw [result, Distinct, Table.keys_put]
      split
      · exact distinct
      · rename_i new
        refine List.nodup_append.mpr ⟨distinct, by simp, ?_⟩
        intro a there b same equal
        rw [equal, List.mem_singleton.mp same] at there
        exact new there
    · rw [result]
      exact distinct
    · rw [result]
      exact distinct
  | get | lookup | contains | size | keys => exact distinct

theorem Distinct.length_keys (distinct : r.Distinct) : r.keys.toList.length = r.entries.length := by
  rw [keys, SortedSet.length_ofList distinct, List.length_map]

/-- The registry that some visits leave behind: their requests served one after the other. -/
def served (visits : List (Visit γ)) : Registry :=
  visits.foldl (fun r visit => (r.serve visit.request).2) .empty

theorem served_concat (visits : List (Visit γ)) (visit : Visit γ) :
    served (visits ++ [visit]) = ((served visits).serve visit.request).2 := by
  simp [served]

theorem later_served (visits more : List (Visit γ)) :
    Later (served visits) (served (visits ++ more)) := by
  induction more using List.reverseRecOn with
  | nil => rw [List.append_nil]; exact .refl
  | append_singleton more visit ih =>
    rw [← List.append_assoc, served_concat]
    exact ih.trans (later_serve _ visit.request)

theorem distinct_served (visits : List (Visit γ)) : (served visits).Distinct := by
  induction visits using List.reverseRecOn with
  | nil => exact List.nodup_nil
  | append_singleton visits visit ih =>
    rw [served_concat]
    exact ih.serve visit.request

/-- The visit registers a signature under a name, and is not refused. -/
def Visit.Registers (visit : Visit γ) (key : String) (signature : Signature) : Prop :=
  visit.request = .register key signature ∧ ∃ stored, visit.reply = .signature stored

/-- Every visit takes away what the registry has for it once all before it have been served. -/
def Serial (visits : List (Visit γ)) : Prop :=
  ∀ earlier visit later, visits = earlier ++ visit :: later →
    visit.held = ((served earlier).enter visit.request).1

namespace Serial

theorem before (serial : Serial (visits ++ later)) : Serial visits := by
  intro earlier visit rest cut
  apply serial earlier visit (rest ++ later)
  rw [cut, List.append_assoc, List.cons_append]

theorem concat (serial : Serial visits) (client : γ) (request : Request) :
    Serial (visits ++ [⟨client, request, ((served visits).enter request).1⟩]) := by
  intro earlier visit later cut
  induction later using List.reverseRecOn with
  | nil =>
    obtain ⟨same, last⟩ := List.append_inj' cut rfl
    rw [← List.singleton_inj.mp last, ← same]
  | append_singleton later last _ =>
    rw [← List.cons_append, ← List.append_assoc] at cut
    exact serial earlier visit later (List.append_inj' cut rfl).1

theorem reply (serial : Serial (earlier ++ visit :: later)) :
    visit.reply = ((served earlier).serve visit.request).1 := by
  rw [Visit.reply, serial earlier visit later rfl]
  exact (enter_serve _ _).1

theorem get?_served_iff (serial : Serial visits) :
    (served visits).get? key = some signature ↔
      ∃ visit ∈ visits, visit.Registers key signature := by
  induction visits using List.reverseRecOn with
  | nil => simp [served, get?, empty, Table.find?]
  | append_singleton visits visit ih =>
    have last : visit.Registers key signature ↔ visit.request = .register key signature ∧
        ∃ stored, ((served visits).serve visit.request).1 = .signature stored := by
      rw [Visit.Registers, serial.reply]
    rw [served_concat, get?_serve_iff, ih serial.before, ← last]
    simp only [List.mem_append, List.mem_singleton, or_and_right, exists_or, exists_eq_left]

end Serial

/-- What can be said of a visit that comes after others. -/
structure Visit.Right (visit : Visit γ) (earlier : List (Visit γ)) : Prop where
  /-- The reply is the one that a client gets who asks alone after the others. -/
  alone : visit.reply = ((served earlier).serve visit.request).1
  /-- A registration is accepted if nothing was under the name, or the same signature. -/
  accepted : ∀ key signature, visit.request = .register key signature →
    ((∃ stored, visit.reply = .signature stored) ↔
      (served earlier).get? key = none ∨ (served earlier).get? key = some signature)
  /-- It then gives back the signature. -/
  returned : ∀ key signature stored, visit.request = .register key signature →
    visit.reply = .signature stored → stored = signature
  /-- Else it is refused, for another signature is there, and leaves the registry as it is. -/
  refused : ∀ key signature, visit.request = .register key signature →
    (∀ stored, visit.reply ≠ .signature stored) →
      served (earlier ++ [visit]) = served earlier ∧
      ∃ existing, existing ≠ signature ∧ (served earlier).get? key = some existing ∧
        visit.reply = .refused (.conflict key existing signature)
  /-- What has been registered is found from then on. -/
  found : ∀ before ∈ earlier, ∀ key signature, before.Registers key signature →
    (visit.request = .get key → visit.reply = .found (some signature)) ∧
    (visit.request = .lookup key → visit.reply = .signature signature) ∧
    (visit.request = .contains key → visit.reply = .present true)
  /-- Nothing else is. -/
  missing : ∀ key, (∀ before ∈ earlier, ∀ signature, ¬ before.Registers key signature) →
    (visit.request = .get key → visit.reply = .found none) ∧
    (visit.request = .lookup key → visit.reply = .refused (.missing key)) ∧
    (visit.request = .contains key → visit.reply = .present false)
  /-- The names are those registered so far, in order and each once, and are counted so. -/
  names : ∃ names : List String, names.Pairwise (fun a b => compare a b = .lt) ∧
    (∀ key, key ∈ names ↔ ∃ before ∈ earlier, ∃ signature, before.Registers key signature) ∧
    (visit.request = .keys → visit.reply = .names names) ∧
    (visit.request = .size → visit.reply = .size names.length)

namespace Serial

theorem right (serial : Serial (earlier ++ visit :: later)) : visit.Right earlier where
  alone := serial.reply
  accepted key signature asked := by
    rw [serial.reply, asked]
    rcases serve_register (served earlier) key signature with
      ⟨free, result⟩ | ⟨same, result⟩ | ⟨existing, other, taken, result⟩
    · simp [result, free]
    · simp [result, same]
    · simp [result, taken, other]
  returned key signature stored asked reply := by
    rw [serial.reply, asked] at reply
    rcases serve_register (served earlier) key signature with
      ⟨_, result⟩ | ⟨_, result⟩ | ⟨_, _, _, result⟩ <;> rw [result] at reply
    · exact (Reply.signature.inj reply).symm
    · exact (Reply.signature.inj reply).symm
    · cases reply
  refused key signature asked other := by
    rw [serial.reply, asked] at other
    rw [served_concat, serial.reply, asked]
    rcases serve_register (served earlier) key signature with
      ⟨_, result⟩ | ⟨_, result⟩ | ⟨existing, apart, taken, result⟩ <;> rw [result] at other ⊢
    · exact absurd rfl (other signature)
    · exact absurd rfl (other signature)
    · exact ⟨rfl, existing, apart, taken, rfl⟩
  found before member key signature registers := by
    have there : (served earlier).get? key = some signature :=
      serial.before.get?_served_iff.mpr ⟨before, member, registers⟩
    rw [serial.reply]
    refine ⟨?_, ?_, ?_⟩ <;> intro asked <;> rw [asked] <;> simp [serve, lookup, Reply.of, there]
  missing key never := by
    have free : (served earlier).get? key = none := by
      apply Option.eq_none_iff_forall_ne_some.mpr
      intro signature there
      obtain ⟨before, member, registers⟩ := serial.before.get?_served_iff.mp there
      exact never before member signature registers
    rw [serial.reply]
    refine ⟨?_, ?_, ?_⟩ <;> intro asked <;> rw [asked] <;> simp [serve, lookup, Reply.of, free]
  names := by
    refine ⟨(served earlier).keys.toList, (served earlier).keys.increasing, ?_, ?_, ?_⟩
    · intro key
      rw [← SortedSet.mem_def, mem_keys_iff]
      simp only [serial.before.get?_served_iff]
      tauto
    · intro asked
      rw [serial.reply, asked]
      rfl
    · intro asked
      rw [serial.reply, asked, (distinct_served earlier).length_keys]
      rfl

/-- A registration that has been decided would be decided the same way at every later moment, and
would change nothing. -/
theorem steady (serial : Serial visits) (member : visit ∈ visits)
    (asked : visit.request = .register key signature) :
    (served visits).serve visit.request = (visit.reply, served visits) := by
  obtain ⟨earlier, later, cut⟩ := List.mem_iff_append.mp member
  subst cut
  have after : Later (served (earlier ++ [visit])) (served (earlier ++ visit :: later)) := by
    simpa using later_served (earlier ++ [visit]) later
  rw [served_concat, asked] at after
  rw [serial.reply, asked]
  -- The three ways a registration can go, each met again with what it left under the name.
  rcases serve_register (served earlier) key signature with
    ⟨_, result⟩ | ⟨there, result⟩ | ⟨existing, apart, there, result⟩ <;> rw [result] at after ⊢
  · have there : get? ⟨Table.put key signature (served earlier).entries⟩ key = some signature := by
      rw [get?, Table.find?_put, if_pos rfl]
    simp [serve, register, after.get? there]
  · simp [serve, register, after.get? there]
  · simp [serve, register, after.get? there, apart]

end Serial

/-- What holds of a shared registry whatever its clients have done. -/
structure WriteOnce (w : Shared γ) : Prop where
  /-- The registry is what the visits leave, one after the other. -/
  registry : w.registry = served w.visits
  /-- Each visit goes as if it were alone with those before it. -/
  right : ∀ earlier visit later, w.visits = earlier ++ visit :: later → visit.Right earlier
  /-- A registration still finds what it has been decided on, also if its client waits yet. -/
  steady : ∀ visit ∈ w.visits, ∀ key signature, visit.request = .register key signature →
    w.registry.serve visit.request = (visit.reply, w.registry)
  /-- Accepted registrations of one name are of one signature, the one that is there. -/
  agree : ∀ visit ∈ w.visits, ∀ key signature, visit.Registers key signature →
    w.registry.get? key = some signature
  /-- Clients get the replies of their visits. -/
  replied : ∀ visit reply, (visit, reply) ∈ w.replied → visit ∈ w.visits ∧ reply = visit.reply

/-- What a move can be: one that nothing comes of, an idle client's visit, or a reply to one that
waits. -/
theorem step_cases [DecidableEq γ] (w : Shared γ) (move : Move γ) :
    w.step move = w ∨
    (∃ client request, w.waiting client = none ∧ w.step move = w.enter client request) ∨
    ∃ client visit, w.waiting client = some visit ∧ w.step move = w.leave client visit := by
  cases move with
  | enter client request =>
    cases waits : w.waiting client with
    | some visit => exact Or.inl (by simp only [Shared.step, waits])
    | none => exact Or.inr (Or.inl ⟨client, request, waits, by simp only [Shared.step, waits]⟩)
  | leave client =>
    cases waits : w.waiting client with
    | some visit => exact Or.inr (Or.inr ⟨client, visit, waits, by simp only [Shared.step, waits]⟩)
    | none => exact Or.inl (by simp only [Shared.step, waits])

/-- What every move keeps. -/
structure Sound (w : Shared γ) : Prop where
  registry : w.registry = served w.visits
  serial : Serial w.visits
  waiting : ∀ client visit, w.waiting client = some visit → visit ∈ w.visits
  replied : ∀ visit reply, (visit, reply) ∈ w.replied → visit ∈ w.visits ∧ reply = visit.reply

namespace Sound

variable {w : Shared γ}

theorem outset : Sound (.outset : Shared γ) where
  registry := rfl
  serial earlier visit later cut := by simp [Shared.outset] at cut
  waiting client visit none := by cases none
  replied visit reply none := absurd none List.not_mem_nil

theorem writeOnce (sound : Sound w) : WriteOnce w where
  registry := sound.registry
  right earlier visit later cut := (cut ▸ sound.serial).right
  steady visit member key signature asked := by
    rw [sound.registry]
    exact sound.serial.steady member asked
  agree visit member key signature registers := by
    rw [sound.registry]
    exact sound.serial.get?_served_iff.mpr ⟨visit, member, registers⟩
  replied := sound.replied

variable [DecidableEq γ]

theorem enter (sound : Sound w) (client : γ) (request : Request) :
    Sound (w.enter client request) := by
  have more : ∀ visit ∈ w.visits, visit ∈ (w.enter client request).visits :=
    fun visit member => List.mem_append_left _ member
  constructor
  · simp only [Shared.enter]
    rw [served_concat, sound.registry]
    exact (enter_serve _ request).2
  · simp only [Shared.enter]
    rw [sound.registry]
    exact sound.serial.concat client request
  · intro other visit waits
    simp only [Shared.enter] at waits
    split at waits
    · rw [← Option.some.inj waits]
      simp [Shared.enter]
    · exact more visit (sound.waiting other visit waits)
  · intro visit reply member
    obtain ⟨there, same⟩ := sound.replied visit reply member
    exact ⟨more visit there, same⟩

theorem leave (sound : Sound w) {client : γ} (waits : w.waiting client = some visit) :
    Sound (w.leave client visit) := by
  refine ⟨sound.registry, sound.serial, ?_, ?_⟩
  · intro other left held
    simp only [Shared.leave] at held
    split at held
    · cases held
    · exact sound.waiting other left held
  · intro left reply member
    rcases List.mem_append.mp member with before | now
    · exact sound.replied left reply before
    · obtain ⟨same, equal⟩ := Prod.mk.inj (List.mem_singleton.mp now)
      subst same
      exact ⟨sound.waiting client left waits, equal⟩

theorem step (sound : Sound w) (move : Move γ) : Sound (w.step move) := by
  rcases step_cases w move with same | ⟨client, request, _, entered⟩ | ⟨client, visit, waits, left⟩
  · rw [same]
    exact sound
  · rw [entered]
    exact sound.enter client request
  · rw [left]
    exact sound.leave waits

theorem after (sound : Sound w) (moves : List (Move γ)) : Sound (w.after moves) := by
  induction moves generalizing w with
  | nil => exact sound
  | cons move rest ih => exact ih (sound.step move)

end Sound

section Runs

variable [DecidableEq γ]

theorem visits_step (w : Shared γ) (move : Move γ) : w.visits <+: (w.step move).visits := by
  rcases step_cases w move with same | ⟨client, request, _, entered⟩ | ⟨client, visit, _, left⟩
  · simp [same]
  · rw [entered]
    exact List.prefix_append _ _
  · rw [left]
    exact List.prefix_rfl

theorem visits_after (w : Shared γ) (moves : List (Move γ)) :
    w.visits <+: (w.after moves).visits := by
  induction moves generalizing w with
  | nil => exact List.prefix_rfl
  | cons move rest ih => exact (visits_step w move).trans (ih (w.step move))

/-- Whatever any clients do to a registry at first empty, every request goes as if it were alone
with those whose sections came before, and what is under a name at some moment is there at every
later one. -/
theorem shared_writeOnce (moves more : List (Move γ)) :
    WriteOnce (Shared.outset.after moves) ∧
      ((Shared.outset.after moves).visits <+: (Shared.outset.after (moves ++ more)).visits) ∧
      ∀ key signature, (Shared.outset.after moves).registry.get? key = some signature →
        (Shared.outset.after (moves ++ more)).registry.get? key = some signature := by
  have sound : Sound (Shared.outset.after moves) := Sound.outset.after moves
  have onward : Shared.outset.after (moves ++ more) = (Shared.outset.after moves).after more :=
    List.foldl_append
  have longer := visits_after (Shared.outset.after moves) more
  rw [onward]
  refine ⟨sound.writeOnce, longer, ?_⟩
  intro key signature there
  obtain ⟨new, visits⟩ := longer
  rw [(sound.after more).registry, ← visits]
  rw [sound.registry] at there
  exact (later_served _ new).get? there

/-- Two clients are in the registry before either gets its reply; the second finds the signature
of the first, and is refused even if it is told so before the first gets its own back. -/
example :
    let pure : Signature := ⟨.empty, .empty⟩
    let marked : Signature := ⟨.empty, .ofList [.dyn]⟩
    (Shared.outset.after [.enter 0 (.register "m" pure), .enter 1 (.register "m" marked),
      .leave 1, .leave 0]).replied.map Prod.snd =
        [.refused (.conflict "m" pure marked), .signature pure] := by
  decide

end Runs

end FlowTyping.Registry
