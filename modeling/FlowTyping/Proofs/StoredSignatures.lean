import FlowTyping.Proofs.ConstraintCut
import FlowTyping.Proofs.Solutions
import FlowTyping.Proofs.WrittenLevels
import FlowTyping.Signature.Stored

/-!
Signatures that are stored and read again. Each symbol of a signature over a legible domain is
written as a word that only it is written as, so the sides of a constraint are read as they
were written, and the set of constraints, in whatever order the sides of compatibilities are
put, is the one that was stored. Only positions with more digits than a number may have are
refused, by the writer and by the reader alike.
-/

namespace FlowTyping

open Text

variable {domain : Domain} {symbol : Symbol} {l : Literal} {s : Signature}

/-- A symbol that a signature over a domain may have and that can be written: literals of the
domain, and positions with no more digits than the limit. -/
def Symbol.Storable (domain : Domain) : Symbol → Prop
  | .literal l => (Operand.literal l).Known domain.lattice
  | .param position => 0 ≤ position ∧ position < Int.ofNat (firstLonger digitLimit)
  | .ret => True

/-- A signature with such symbols, and effects at levels of the domain or the marker. -/
structure Signature.Storable (domain : Domain) (s : Signature) : Prop where
  symbols : ∀ c ∈ s.constraints, c.lhs.Storable domain ∧ c.rhs.Storable domain
  effects : ∀ l ∈ s.effects, (Operand.literal l).Known domain.lattice

theorem Symbol.Storable.position {position : Int}
    (storable : (Symbol.param position).Storable domain) :
    ∃ number : Nat, position = Int.ofNat number ∧ number < firstLonger digitLimit := by
  obtain ⟨nonnegative, small⟩ := storable
  refine ⟨position.toNat, (Int.toNat_of_nonneg nonnegative).symm, ?_⟩
  exact (Int.toNat_lt nonnegative).mpr small

theorem Symbol.toList_written_param (literal : Literal → String) (number : Nat) :
    (Symbol.written literal (.param (Int.ofNat number))).toList =
      '@' :: Nat.toDigits 10 number := by
  show ("@" ++ Nat.repr number).toList = _
  simp [Nat.toList_repr]

namespace Symbol

theorem paramReference?_toDigits (number : Nat) :
    paramReference? ('@' :: Nat.toDigits 10 number) =
      some (if number < firstLonger digitLimit then .ok number
        else .error ⟨some (Nat.toDigits 10 number).length⟩) := by
  rw [paramReference?, readNat?_toDigits, Option.map_some, withinLimit_toDigits]

theorem isWord_param (literal : Literal → String) (number : Nat) :
    IsWord (Symbol.written literal (.param (Int.ofNat number))).toList := by
  have mark : inWord '@' = true := by decide
  rw [toList_written_param, isWord_iff, List.all_cons, mark]
  exact ⟨by simp, (isWord_iff.mp (isWord_toDigits number)).2⟩

/-- The text of a position is read as the position, unless it is too long. -/
theorem read_param (number : Nat) :
    Symbol.read domain (Symbol.written (Signature.storedLiteral domain)
        (.param (Int.ofNat number))) =
      if number < firstLonger digitLimit then .ok (.param (Int.ofNat number))
      else .error (.ofDigits ⟨some (Nat.toDigits 10 number).length⟩) := by
  have shape := toList_written_param (Signature.storedLiteral domain) number
  have other : Symbol.written (Signature.storedLiteral domain) (.param (Int.ofNat number)) ≠
      "@return" := by
    intro same
    rw [same] at shape
    have digits : "return".toList = Nat.toDigits 10 number := (List.cons.inj shape).2
    have read := readNat?_toDigits number
    rw [← digits] at read
    have letters : readNat? "return".toList = none := by decide
    rw [letters] at read
    cases read
  rw [Symbol.read, (isWord_param _ number).strip]
  simp only [other, if_false, shape, paramReference?_toDigits]
  by_cases small : number < firstLonger digitLimit
  · simp only [small, if_true]
  · simp only [small, if_false]

end Symbol

theorem stored_not_blank {c : SymbolConstraint}
    (word : IsWord (c.lhs.written (Signature.storedLiteral domain)).toList) :
    isBlankText (Signature.storedConstraint domain c) = false := by
  obtain ⟨first, member⟩ := List.exists_mem_of_ne_nil _ word.nonempty
  apply List.all_eq_false.mpr
  refine ⟨first, ?_, by simp [word.solid first member]⟩
  simp [Signature.storedConstraint, Constraint.shown, member]

section Legible

variable (built : domain.Built) (legible : domain.Legible)
include built legible

/-- A literal of the domain is written as a word that is no reference, and read back. -/
theorem Literal.read_stored (known : (Operand.literal l).Known domain.lattice) :
    IsWord (Signature.storedLiteral domain l).toList ∧
      Symbol.read domain (Signature.storedLiteral domain l) = .ok (.literal l) ∧
      Effects.readLevel domain (Signature.storedLiteral domain l) = .ok l := by
  cases l with
  | dyn =>
    have word : IsWord "?".toList := by decide
    have noParam : paramReference? "?".toList = none := by decide
    refine ⟨word, ?_, ?_⟩
    · show Symbol.read domain "?" = _
      rw [Symbol.read, word.strip, if_neg (by decide), noParam]
      rfl
    · show Effects.readLevel domain "?" = _
      rw [Effects.readLevel, word.strip, if_pos rfl]
  | level level =>
    have spells := built.spells legible known
    have stripped := spells.word.strip
    obtain ⟨noReturn, noParam, noMarker⟩ := spells.unreserved
    refine ⟨spells.word, ?_, ?_⟩
    · show Symbol.read domain (domain.format level) = _
      simp only [Symbol.read, stripped, noReturn, if_false, noParam, noMarker, spells.reads]
    · show Effects.readLevel domain (domain.format level) = _
      simp only [Effects.readLevel, stripped, spells.noMarker, if_false, spells.reads]

theorem Symbol.read_written (storable : symbol.Storable domain) :
    IsWord (symbol.written (Signature.storedLiteral domain)).toList ∧
      Symbol.read domain (symbol.written (Signature.storedLiteral domain)) = .ok symbol := by
  cases symbol with
  | literal l =>
    obtain ⟨word, read, _⟩ := Literal.read_stored built legible storable
    exact ⟨word, read⟩
  | param position =>
    obtain ⟨number, same, small⟩ := storable.position
    subst same
    refine ⟨isWord_param _ number, ?_⟩
    rw [read_param, if_pos small]
  | ret =>
    have word : IsWord "@return".toList := by decide
    refine ⟨word, ?_⟩
    show Symbol.read domain "@return" = _
    rw [Symbol.read, word.strip, if_pos rfl]

theorem SymbolConstraint.read_stored {c : SymbolConstraint} (lhs : c.lhs.Storable domain)
    (rhs : c.rhs.Storable domain) :
    SymbolConstraint.read domain (Signature.storedConstraint domain c) = .ok c := by
  obtain ⟨first, left⟩ := Symbol.read_written built legible lhs
  obtain ⟨second, right⟩ := Symbol.read_written built legible rhs
  rw [SymbolConstraint.read, Signature.storedConstraint, Constraint.shown,
    Constraint.split?_words first second]
  simp only [left, right, bind, Except.bind, pure, Except.pure, Constraint.make_parts]

end Legible

namespace Signature

/-- Texts that are read one after the other as what they were written for are read as the
list of it. -/
theorem readTexts_map {α : Type} {read : String → Except ParseError α} {skip : String → Bool}
    {write : α → String} {l : List α}
    (each : ∀ x ∈ l, skip (write x) = false ∧ read (write x) = .ok x) :
    readTexts read skip (l.map (fun x => .text (write x))) = .ok l := by
  induction l with
  | nil => rfl
  | cons first rest ih =>
    obtain ⟨kept, answered⟩ := each first (by simp)
    rw [List.map_cons, readTexts, kept, answered,
      ih fun x later => each x (List.mem_cons_of_mem first later)]
    rfl

/-- Reading what was stored is reading the texts of the constraints, then those of the
effects. -/
theorem ofDocument_toDocument (domain : Domain) (s : Signature) :
    ofDocument domain (s.toDocument domain) = (do
      let read ← readTexts (SymbolConstraint.read domain) isBlankText
        ((s.storedConstraints domain).map Document.text)
      let levels ← readTexts (Effects.readLevel domain) (fun _ => false)
        (s.effects.toList.map (storedEffect domain))
      pure ⟨SortedSet.ofList read, SortedSet.ofList levels⟩) := rfl

end Signature

/-- A level that a domain writes as a text, alone and as an item of a list. -/
structure Domain.Writes (domain : Domain) (level : Level) : Prop where
  alone : domain.unwritable? (.level level) = none
  listed : domain.unlistable? (.level level) = none
  shown : ∃ text, (Literal.level level).shown? = .ok text
  item : domain.formatItem level = .text (domain.format level)

theorem Domain.Built.writes (built : domain.Built) {level : Level}
    (known : level ∈ domain.lattice.elements) : domain.Writes level := by
  rcases built.level_cases known with
    ⟨two, low | high⟩ | ⟨sets, members, power, principals⟩ | ⟨diagram, name, hasse, _, named⟩
  · subst two low
    exact ⟨rfl, rfl, ⟨_, rfl⟩, rfl⟩
  · subst two high
    exact ⟨rfl, rfl, ⟨_, rfl⟩, rfl⟩
  · subst power principals
    exact ⟨rfl, rfl, ⟨_, rfl⟩, rfl⟩
  · subst hasse named
    exact ⟨rfl, rfl, ⟨_, rfl⟩, rfl⟩

namespace Signature

section Built

variable (built : domain.Built)
include built

theorem storedEffect_eq (known : (Operand.literal l).Known domain.lattice) :
    storedEffect domain l = .text (storedLiteral domain l) := by
  cases l with
  | dyn => rfl
  | level level => exact (built.writes known).item

theorem unwritable?_eq_none (storable : symbol.Storable domain) :
    unwritable? domain symbol = none := by
  cases symbol with
  | literal l =>
    cases l with
    | dyn => rfl
    | level level =>
      have writes := built.writes storable
      obtain ⟨text, shown⟩ := writes.shown
      simp only [unwritable?, writes.alone, shown, longNumber?]
  | param position =>
    obtain ⟨number, same, small⟩ := storable.position
    subst same
    rw [unwritable?, writeInt_ofNat, if_pos small]
    rfl
  | ret => rfl

theorem toDocument?_eq (storable : s.Storable domain) :
    s.toDocument? domain = .ok (s.toDocument domain) := by
  have sides : (s.constraints.toList.flatMap fun c => [c.lhs, c.rhs]).findSome?
      (unwritable? domain) = none := by
    apply List.findSome?_eq_none_iff.mpr
    intro symbol listed
    obtain ⟨c, member, side⟩ := List.mem_flatMap.mp listed
    obtain ⟨left, right⟩ := storable.symbols c member
    simp only [List.mem_cons, List.not_mem_nil, or_false] at side
    rcases side with same | same
    · subst same
      exact unwritable?_eq_none built left
    · subst same
      exact unwritable?_eq_none built right
  have effects : (s.effects.toList.findSome? fun effect =>
      if effect = .dyn then none else domain.unlistable? effect) = none := by
    apply List.findSome?_eq_none_iff.mpr
    intro effect member
    cases effect with
    | dyn => rfl
    | level level => exact (built.writes (storable.effects _ member)).listed
  rw [toDocument?, unstorable?, sides, effects]
  rfl

end Built

end Signature

/-- Stored signatures are read back unchanged. Over a domain whose names can be told from
operators, references and the marker, a signature with any constraints and effects is stored
and the stored form reads as the signature, as long as no position has more digits than a
number may have. -/
theorem stored_signature_reads_back (built : domain.Built) (legible : domain.Legible)
    (storable : s.Storable domain) :
    ∃ document, s.toDocument? domain = .ok document ∧
      Signature.ofDocument domain document = .ok s := by
  have lines : Signature.readTexts (SymbolConstraint.read domain) isBlankText
      ((s.storedConstraints domain).map Document.text) = .ok s.constraints.toList := by
    rw [Signature.storedConstraints, List.map_map]
    apply Signature.readTexts_map
    intro c member
    obtain ⟨left, right⟩ := storable.symbols c member
    exact ⟨stored_not_blank (Symbol.read_written built legible left).1,
      SymbolConstraint.read_stored built legible left right⟩
  have levels : Signature.readTexts (Effects.readLevel domain) (fun _ => false)
      (s.effects.toList.map (Signature.storedEffect domain)) = .ok s.effects.toList := by
    rw [List.map_congr_left fun l member =>
      Signature.storedEffect_eq built (storable.effects l member)]
    apply Signature.readTexts_map
    intro l member
    obtain ⟨_, _, read⟩ := Literal.read_stored built legible (storable.effects l member)
    exact ⟨rfl, read⟩
  refine ⟨_, Signature.toDocument?_eq built storable, ?_⟩
  rw [Signature.ofDocument_toDocument, lines, levels]
  show Except.ok (Signature.mk (SortedSet.ofList s.constraints.toList)
    (SortedSet.ofList s.effects.toList)) = .ok s
  rw [SortedSet.ofList_toList, SortedSet.ofList_toList]

/-- The greatest position that is stored, beside a set whose principals are not declared in
alphabetical order, on a side that the order of symbols decides. -/
theorem stored_signature_reads_back_greatest :
    let domain := Domain.powerset ⟨["bob", "alice"]⟩
    let all := Level.principals (.ofList ["alice", "bob"])
    let s : Signature :=
      ⟨.ofList [.make (.param (Int.ofNat (firstLonger digitLimit - 1))) .compatible (.literal (.level all)),
          .make (.literal .dyn) .implies .ret],
        .ofList [.dyn, .level all]⟩
    ∃ document, s.toDocument? domain = .ok document ∧
      Signature.ofDocument domain document = .ok s := by
  intro domain all s
  have built : domain.Built := .powerset (rfl : Powerset.ofPrincipals ["bob", "alice"] = .ok _)
  have legible : domain.Legible := by
    show ∀ name ∈ ["bob", "alice"], IsWord name.toList
    decide
  have level : all ∈ domain.lattice.elements := by decide +kernel
  have greatest : (Symbol.param (Int.ofNat (firstLonger digitLimit - 1))).Storable domain :=
    ⟨Int.natCast_nonneg _, Int.ofNat_lt.mpr (Nat.sub_one_lt_of_lt (firstLonger_pos digitLimit))⟩
  have literal : (Symbol.literal (.level all)).Storable domain := level
  have marker : (Symbol.literal .dyn).Storable domain := trivial
  have returned : Symbol.ret.Storable domain := trivial
  refine stored_signature_reads_back built legible ⟨?_, ?_⟩
  · intro c member
    simp only [s, SortedSet.mem_ofList, List.mem_cons, List.not_mem_nil, or_false] at member
    rcases member with same | same
    · subst same
      exact Constraint.make_both greatest literal _
    · subst same
      exact Constraint.make_both marker returned _
  · intro l member
    simp only [s, SortedSet.mem_ofList, List.mem_cons, List.not_mem_nil, or_false] at member
    rcases member with same | same
    · subst same
      trivial
    · subst same
      exact level

/-- A signature that says of one parameter that it is low. -/
def positionSignature (number : Nat) : Signature :=
  ⟨.ofList [.make (.param (Int.ofNat number)) .flow (.literal (.level .low))], .empty⟩

section Long

variable {number : Nat} (long : ¬ number < firstLonger digitLimit)
include long

theorem positionSignature_refused :
    (positionSignature number).toDocument? .twoPoint = .error (.longNumber ⟨none⟩) := by
  have refused : Signature.unwritable? .twoPoint (.param (Int.ofNat number)) =
      some (.longNumber ⟨none⟩) := by
    rw [Signature.unwritable?, writeInt_ofNat, if_neg long]
    rfl
  have listed : (positionSignature number).constraints.toList.flatMap (fun c => [c.lhs, c.rhs]) =
      [.param (Int.ofNat number), .literal (.level .low)] := rfl
  rw [Signature.toDocument?, Signature.unstorable?, listed]
  simp only [List.findSome?_cons, refused]

theorem positionSignature_unread :
    Signature.ofDocument .twoPoint ((positionSignature number).toDocument .twoPoint) =
      .error (.parse (.ofDigits ⟨some (Nat.toDigits 10 number).length⟩)) := by
  have first := Symbol.isWord_param (Signature.storedLiteral .twoPoint) number
  have low : (Symbol.literal (.level .low)).Storable .twoPoint := by
    show (Operand.literal (.level .low)).Known Domain.twoPoint.lattice
    decide
  obtain ⟨second, _⟩ := Symbol.read_written Domain.Built.twoPoint trivial low
  have refused : SymbolConstraint.read .twoPoint (Signature.storedConstraint .twoPoint
      (.make (.param (Int.ofNat number)) .flow (.literal (.level .low)))) =
      .error (.ofDigits ⟨some (Nat.toDigits 10 number).length⟩) := by
    have flow : Kind.flow ≠ .compatible := by decide
    rw [SymbolConstraint.read, Signature.storedConstraint, Constraint.shown, Constraint.make_kind,
      Constraint.make_lhs_of_ne flow, Constraint.make_rhs_of_ne flow,
      Constraint.split?_words first second]
    simp only [Symbol.read_param, long, if_false]
    rfl
  have lines : Signature.readTexts (SymbolConstraint.read .twoPoint) isBlankText
      (((positionSignature number).storedConstraints .twoPoint).map Document.text) =
      .error (.parse (.ofDigits ⟨some (Nat.toDigits 10 number).length⟩)) := by
    show Signature.readTexts _ _ [.text (Signature.storedConstraint .twoPoint
      (.make (.param (Int.ofNat number)) .flow (.literal (.level .low))))] = _
    rw [Signature.readTexts, stored_not_blank first, refused]
    rfl
  rw [Signature.ofDocument_toDocument, lines]
  rfl

end Long

/-- The first position with a digit too many is neither written nor read. -/
theorem long_position_not_stored :
    let s := positionSignature (firstLonger digitLimit)
    (¬ ∃ document, s.toDocument? .twoPoint = .ok document ∧
        Signature.ofDocument .twoPoint document = .ok s) ∧
      Signature.ofDocument .twoPoint (s.toDocument .twoPoint) =
        .error (.parse (.ofDigits ⟨some (digitLimit + 1)⟩)) := by
  intro s
  have long : ¬ firstLonger digitLimit < firstLonger digitLimit := Nat.lt_irrefl _
  constructor
  · intro stored
    obtain ⟨document, written, _⟩ := stored
    rw [positionSignature_refused long] at written
    cases written
  · rw [← length_toDigits_firstLonger (by decide : 0 < digitLimit)]
    exact positionSignature_unread long

end FlowTyping
