import FlowTyping.Config
import FlowTyping.UnitFile

/-!
Documents with values that a reader cannot use and that it has no report for. What a reader goes
through must have parts, what it looks names up in must be a mapping, a cover must have two parts,
and a number must have a whole one; in a configuration, moreover, a number that stands for a text
must not be too long to be written. For each reader it is shown that these values make it fail,
and that no others do; a value that the reader has not come to does no harm.
-/

namespace FlowTyping

universe u v

section Readings

variable {ε : Type u} {α : Type v} {β : Type v} {sort : ε → Prop} {odd odder : Prop}
variable {reading : Except ε α} {next : α → Except ε β}

def FailsWith (sort : ε → Prop) (reading : Except ε α) : Prop :=
  ∃ e, sort e ∧ reading = .error e

/-- The reading ends with an error of some sort in the odd case, and else with a value. -/
def Hinges (odd : Prop) (sort : ε → Prop) (reading : Except ε α) : Prop :=
  (odd ∧ FailsWith sort reading) ∨ (¬ odd ∧ ∃ a, reading = .ok a)

namespace FailsWith

@[simp] theorem ok_iff {a : α} : FailsWith sort (.ok a : Except ε α) ↔ False := by
  simp [FailsWith]

@[simp] theorem error_iff {e : ε} : FailsWith sort (.error e : Except ε α) ↔ sort e := by
  simp [FailsWith]

/-- One reading after the other fails where the first does, or where the second does with what
the first has read. -/
theorem bind_iff : FailsWith sort (reading >>= next) ↔
    FailsWith sort reading ∨ ∃ a, reading = .ok a ∧ FailsWith sort (next a) := by
  cases reading with
  | error e => simp [bind, Except.bind]
  | ok a => simp [bind, Except.bind]

theorem not_bind (first : ¬ FailsWith sort reading)
    (second : ∀ a, reading = .ok a → ¬ FailsWith sort (next a)) :
    ¬ FailsWith sort (reading >>= next) := by
  rw [bind_iff]
  intro fails
  rcases fails with fails | ⟨a, read, fails⟩
  · exact first fails
  · exact second a read fails

theorem bind_pure_iff {f : α → β} :
    FailsWith sort (reading >>= fun a => Pure.pure (f a)) ↔ FailsWith sort reading := by
  cases reading <;> simp [bind, Except.bind, Pure.pure, Except.pure]

theorem map_iff {f : α → β} :
    FailsWith sort (reading.map f) ↔ FailsWith sort reading := by
  cases reading <;> simp [Except.map]

theorem mapError_iff {ε' : Type u} {sort : ε' → Prop} {f : ε → ε'} :
    FailsWith sort (reading.mapError f) ↔ FailsWith (fun e => sort (f e)) reading := by
  cases reading with
  | error e =>
    show FailsWith sort (.error (f e)) ↔ _
    simp
  | ok a =>
    show FailsWith sort (.ok a) ↔ _
    simp

end FailsWith

namespace Hinges

theorem of_error {e : ε} (holds : odd) (refused : reading = .error e) (kind : sort e) :
    Hinges odd sort reading :=
  Or.inl ⟨holds, e, kind, refused⟩

theorem of_ok {a : α} (even : ¬ odd) (read : reading = .ok a) : Hinges odd sort reading :=
  Or.inr ⟨even, a, read⟩

theorem fails_iff (hinges : Hinges odd sort reading) : FailsWith sort reading ↔ odd := by
  rcases hinges with ⟨holds, fails⟩ | ⟨fails, a, read⟩
  · exact iff_of_true fails holds
  · simp [read, fails]

/-- What follows a reading only matters where the reading comes to a value. -/
theorem bind_fails_iff (first : Hinges odd sort reading)
    (second : ∀ a, reading = .ok a → (FailsWith sort (next a) ↔ odder)) :
    FailsWith sort (reading >>= next) ↔ odd ∨ odder := by
  rw [FailsWith.bind_iff, first.fails_iff]
  rcases first with ⟨holds, _⟩ | ⟨even, a, read⟩
  · exact iff_of_true (Or.inl holds) (Or.inl holds)
  · simp [read, second a read]

theorem bind_fails_iff_first (first : Hinges odd sort reading)
    (second : ∀ a, ¬ FailsWith sort (next a)) : FailsWith sort (reading >>= next) ↔ odd := by
  rw [first.bind_fails_iff fun a _ => iff_false_intro (second a), or_false]

theorem congr (same : odd ↔ odder) (hinges : Hinges odd sort reading) :
    Hinges odder sort reading := by
  rwa [Hinges, ← same]

theorem pure (a : α) : Hinges False sort (Pure.pure a : Except ε α) :=
  Or.inr ⟨not_false, a, rfl⟩

theorem bind (first : Hinges odd sort reading)
    (second : ∀ a, reading = .ok a → Hinges odder sort (next a)) :
    Hinges (odd ∨ odder) sort (reading >>= next) := by
  rcases first with ⟨holds, fails⟩ | ⟨even, a, read⟩
  · exact Or.inl ⟨Or.inl holds, FailsWith.bind_iff.mpr (Or.inl fails)⟩
  · have step : (reading >>= next) = next a := by rw [read]; rfl
    rw [step]
    apply (second a read).congr
    simp [even]

/-- A list is odd if one of its members is. -/
theorem mapM {γ : Type u} {f : γ → Except ε β} {odd : γ → Prop}
    (each : ∀ c, Hinges (odd c) sort (f c)) (l : List γ) :
    Hinges (∃ c ∈ l, odd c) sort (l.mapM f) := by
  induction l with
  | nil => exact (Hinges.pure []).congr (by simp)
  | cons first rest ih =>
    rw [List.mapM_cons]
    apply ((each first).bind fun b _ => ih.bind fun bs _ => Hinges.pure (b :: bs)).congr
    simp

end Hinges

end Readings

namespace Document

/-- The value under a name is given, and is no mapping. -/
def Unkeyed (entries : List (Document × Document)) (name : String) : Prop :=
  ∃ value, find? entries name = some value ∧ value.isGiven = true ∧
    ∀ found, value ≠ .mapping found

/-- There is a value under a name that has no parts. -/
def Partless (entries : List (Document × Document)) (name : String) : Prop :=
  ∃ value, find? entries name = some value ∧ value.parts? = none

/-- The value under a name is given, and has no parts. -/
def Unlisted (entries : List (Document × Document)) (name : String) : Prop :=
  ∃ value, find? entries name = some value ∧ value.isGiven = true ∧ value.parts? = none

/-- The entries of the mapping under a name; none if there is no mapping. -/
def sectionOf (entries : List (Document × Document)) (name : String) :
    List (Document × Document) :=
  match find? entries name with
  | some (.mapping found) => found
  | _ => []

/-- There is a value under a name that is too long to be written. -/
def Overlong (entries : List (Document × Document)) (name : String) : Prop :=
  ∃ value, find? entries name = some value ∧ value.isLong = true

/-- No whole number can be made of the value. -/
def Numberless : Document → Prop
  | .bool _ => False
  | .int _ => False
  | .decimal shown => Json.wholeOf? shown = none ∧ shown ≠ "nan"
  | .text _ => False
  | .bytes _ => False
  | _ => True

end Document

open Document

variable {entries : List (Document × Document)} {name : String}

/-- The errors of a configuration that are not reported. -/
def ConfigError.Silent : ConfigError → Prop
  | .coverParts _ => True
  | .longNumber _ => True
  | .fault _ => True
  | _ => False

def UnitError.Silent : UnitError → Prop
  | .fault _ => True
  | _ => False

namespace Config

/-- A section is read unless it is given and no mapping. -/
theorem entriesOf_cases (entries : List (Document × Document)) (name : String) :
    (Unkeyed entries name ∧ entriesOf entries name = .error (.fault .noSuchPart)) ∨
      (¬ Unkeyed entries name ∧ entriesOf entries name = .ok (sectionOf entries name)) := by
  unfold Unkeyed entriesOf sectionOf
  cases find? entries name with
  | none => simp
  | some value => by_cases given : value.isGiven = true <;> cases value <;> simp_all

theorem entriesOf_hinges (entries : List (Document × Document)) (name : String) :
    Hinges (Unkeyed entries name) ConfigError.Silent (entriesOf entries name) := by
  rcases entriesOf_cases entries name with ⟨unkeyed, read⟩ | ⟨keyed, read⟩
  · exact .of_error unkeyed read trivial
  · exact .of_ok keyed read

theorem eq_sectionOf {found : List (Document × Document)}
    (read : entriesOf entries name = .ok found) : found = sectionOf entries name := by
  rcases entriesOf_cases entries name with ⟨_, refused⟩ | ⟨_, other⟩
  · rw [refused] at read
    cases read
  · exact Except.ok.inj (read.symm.trans other)

theorem partsOf_hinges (entries : List (Document × Document)) (name : String) :
    Hinges (Partless entries name) ConfigError.Silent (partsOf entries name) := by
  unfold Partless partsOf
  cases find? entries name with
  | none => exact .of_ok (by simp) rfl
  | some value =>
    cases listed : value.parts? with
    | none =>
      exact .of_error (e := .fault .wrongShape) (by simp [listed]) (by simp [listed]) trivial
    | some parts => exact .of_ok (a := parts) (by simp [listed]) (by simp [listed])

theorem textOf_hinges (value : Document) :
    Hinges (value.isLong = true) ConfigError.Silent (textOf value) := by
  unfold textOf plain?
  split
  · rename_i long
    exact .of_error long rfl trivial
  · rename_i short
    exact .of_ok short rfl

/-- The value under a name has no parts, or one that is too long to be written. -/
def OddTexts (entries : List (Document × Document)) (name : String) : Prop :=
  Partless entries name ∨
    ∃ parts, partsOf entries name = .ok parts ∧ ∃ part ∈ parts, part.isLong = true

theorem textsOf_hinges (entries : List (Document × Document)) (name : String) :
    Hinges (OddTexts entries name) ConfigError.Silent (textsOf entries name) := by
  refine (partsOf_hinges entries name).bind fun parts listed => ?_
  apply (Hinges.mapM textOf_hinges parts).congr
  simp [listed]

/-- A cover has other than two parts, or one that is too long to be written. -/
def OddCover (cover : Document) : Prop :=
  ∀ lower upper, cover.parts? = some [lower, upper] →
    lower.isLong = true ∨ upper.isLong = true

theorem readCover_hinges (cover : Document) :
    Hinges (OddCover cover) ConfigError.Silent (readCover cover) := by
  unfold OddCover readCover
  split
  · rename_i partless
    exact .of_error (by simp [partless]) rfl trivial
  · rename_i lower upper two
    apply ((textOf_hinges lower).bind fun _ _ =>
      (textOf_hinges upper).bind fun _ _ => Hinges.pure _).congr
    simp [two]
  · rename_i listed other parts
    refine .of_error ?_ rfl trivial
    intro lower upper two
    rw [parts] at two
    exact absurd (Option.some.inj two) (other lower upper)

theorem wordOf_hinges (entries : List (Document × Document)) (name default : String) :
    Hinges (Overlong entries name) ConfigError.Silent (wordOf entries name default) := by
  unfold Overlong wordOf
  cases find? entries name with
  | none => exact .of_ok (by simp) rfl
  | some value => exact (textOf_hinges value).congr (by simp)

/-- The kind of domain is one of those known. -/
def KnownKind (entries : List (Document × Document)) : Prop :=
  ∃ word kind, wordOf entries "kind" "lowhigh" = .ok word ∧
    DomainKind.ofWord? (Text.lower word) = some kind

/-- The section of a domain has a list with odd texts, or an odd cover. -/
def OddLists (entries : List (Document × Document)) : Prop :=
  OddTexts entries "principals" ∨ OddTexts entries "elements" ∨ Partless entries "covers" ∨
    ∃ covers, partsOf entries "covers" = .ok covers ∧ ∃ cover ∈ covers, OddCover cover

/-- A domain of a known kind is read unless its lists are odd. -/
theorem readDomain_hinges (known : KnownKind entries) :
    Hinges (OddLists entries) ConfigError.Silent (readDomain entries) := by
  obtain ⟨word, kind, written, named⟩ := known
  have step : readDomain entries = (do
      let principals ← textsOf entries "principals"
      let elements ← textsOf entries "elements"
      let covers ← (← partsOf entries "covers").mapM readCover
      pure { kind, principals, elements, covers }) := by
    simp only [readDomain, written, named, bind, Except.bind]
  rw [step]
  refine (textsOf_hinges entries "principals").bind fun principals _ =>
    (textsOf_hinges entries "elements").bind fun elements _ =>
    (partsOf_hinges entries "covers").bind fun covers listed => ?_
  apply ((Hinges.mapM readCover_hinges covers).bind fun pairs _ => Hinges.pure _).congr
  simp [listed]

/-- Any other domain is refused, and in silence only if its kind is too long to be written. -/
theorem readDomain_unknown (unknown : ¬ KnownKind entries) :
    ∃ e, readDomain entries = .error e ∧ (e.Silent ↔ Overlong entries "kind") := by
  rcases wordOf_hinges entries "kind" "lowhigh" with
    ⟨long, e, silent, refused⟩ | ⟨short, word, written⟩
  · refine ⟨e, ?_, iff_of_true silent long⟩
    simp only [readDomain, refused, bind, Except.bind]
  · cases named : DomainKind.ofWord? (Text.lower word) with
    | none =>
      refine ⟨.unknownKind (Text.lower word), ?_, iff_of_false id short⟩
      simp only [readDomain, written, named, bind, Except.bind]
    | some kind => exact absurd ⟨word, kind, written, named⟩ unknown

/-- The ways in which the mapping of a configuration has values that cannot be used. Where no
known kind of domain is named, nothing behind the name is looked at. -/
inductive Misshapen (entries : List (Document × Document)) : Prop where
  | domain (unkeyed : Unkeyed entries "domain")
  | kind (long : Overlong (sectionOf entries "domain") "kind")
  | lists (known : KnownKind (sectionOf entries "domain"))
      (odd : OddLists (sectionOf entries "domain"))
  | solver (known : KnownKind (sectionOf entries "domain")) (unkeyed : Unkeyed entries "solver")
  | logging (known : KnownKind (sectionOf entries "domain")) (unkeyed : Unkeyed entries "logging")
  | level (known : KnownKind (sectionOf entries "domain"))
      (long : Overlong (sectionOf entries "logging") "level")

theorem not_misshapen_nil : ¬ Misshapen [] := by
  have nothing : ∀ name, find? [] name = none := fun _ => rfl
  intro misshapen
  cases misshapen with
  | domain unkeyed | solver _ unkeyed | logging _ unkeyed => simp [Unkeyed, nothing] at unkeyed
  | kind long | level _ long => simp [Overlong, sectionOf, nothing] at long
  | lists _ odd => simp [OddLists, OddTexts, Partless, sectionOf, partsOf, nothing] at odd

theorem readThreshold_fails_iff :
    FailsWith ConfigError.Silent (readThreshold entries) ↔ Overlong entries "level" := by
  refine (wordOf_hinges entries "level" "WARNING").bind_fails_iff_first fun word => ?_
  dsimp only
  split <;> simp [ConfigError.Silent]

/-- What is read behind the section of the domain. -/
theorem readSections_fails_iff : FailsWith ConfigError.Silent (do
      let configured ← readDomain (sectionOf entries "domain")
      let solver ← entriesOf entries "solver"
      let threshold ← readThreshold (← entriesOf entries "logging")
      pure { configured with
        crossCheck := switchOf solver ["cross-check", "cross_check"], threshold }) ↔
    Overlong (sectionOf entries "domain") "kind" ∨ KnownKind (sectionOf entries "domain") ∧
      (OddLists (sectionOf entries "domain") ∨ Unkeyed entries "solver" ∨
        Unkeyed entries "logging" ∨ Overlong (sectionOf entries "logging") "level") := by
  by_cases known : KnownKind (sectionOf entries "domain")
  · have short : ¬ Overlong (sectionOf entries "domain") "kind" := by
      obtain ⟨word, kind, written, _⟩ := known
      rw [← (wordOf_hinges (sectionOf entries "domain") "kind" "lowhigh").fails_iff, written]
      simp
    rw [or_iff_right short, and_iff_right known]
    refine (readDomain_hinges known).bind_fails_iff fun configured _ =>
      (entriesOf_hinges entries "solver").bind_fails_iff fun solver _ =>
      (entriesOf_hinges entries "logging").bind_fails_iff fun level read => ?_
    rw [FailsWith.bind_pure_iff, readThreshold_fails_iff, eq_sectionOf read]
  · obtain ⟨e, refused, silent⟩ := readDomain_unknown known
    rw [refused]
    simp [bind, Except.bind, silent, known]

theorem ofDocument_fails_iff :
    FailsWith ConfigError.Silent (ofDocument (.mapping entries)) ↔ Misshapen entries := by
  have odd : FailsWith ConfigError.Silent (ofDocument (.mapping entries)) ↔
      Unkeyed entries "domain" ∨ Overlong (sectionOf entries "domain") "kind" ∨
        KnownKind (sectionOf entries "domain") ∧ (OddLists (sectionOf entries "domain") ∨
          Unkeyed entries "solver" ∨ Unkeyed entries "logging" ∨
          Overlong (sectionOf entries "logging") "level") := by
    refine (entriesOf_hinges entries "domain").bind_fails_iff fun found read => ?_
    rw [eq_sectionOf read]
    exact readSections_fails_iff
  rw [odd]
  constructor
  · intro fails
    rcases fails with unkeyed | long | ⟨known, lists | unkeyed | unkeyed | long⟩
    · exact .domain unkeyed
    · exact .kind long
    · exact .lists known lists
    · exact .solver known unkeyed
    · exact .logging known unkeyed
    · exact .level known long
  · intro misshapen
    cases misshapen with
    | domain unkeyed => exact Or.inl unkeyed
    | kind long => exact Or.inr (Or.inl long)
    | lists known lists => exact Or.inr (Or.inr ⟨known, Or.inl lists⟩)
    | solver known unkeyed => exact Or.inr (Or.inr ⟨known, Or.inr (Or.inl unkeyed)⟩)
    | logging known unkeyed => exact Or.inr (Or.inr ⟨known, Or.inr (Or.inr (Or.inl unkeyed))⟩)
    | level known long => exact Or.inr (Or.inr ⟨known, Or.inr (Or.inr (Or.inr long))⟩)

end Config

namespace UnitFile

variable {file : UnitFile} {domain : Domain} {space : Namespace}

theorem tagEntries_cases (file : UnitFile) :
    (Unkeyed file.entries "tags" ∧ file.tagEntries = .error (.fault .noSuchPart)) ∨
      (¬ Unkeyed file.entries "tags" ∧ file.tagEntries = .ok (sectionOf file.entries "tags")) := by
  unfold Unkeyed tagEntries sectionOf
  cases find? file.entries "tags" with
  | none => simp [isGiven]
  | some value => by_cases given : value.isGiven = true <;> cases value <;> simp_all

theorem partsOf_hinges (file : UnitFile) (name : String) :
    Hinges (Unlisted file.entries name) UnitError.Silent (file.partsOf name) := by
  unfold Unlisted partsOf
  cases find? file.entries name with
  | none => exact .of_ok (by simp) rfl
  | some value =>
    by_cases given : value.isGiven = true
    · cases listed : value.parts? with
      | none =>
        exact .of_error (e := .fault .wrongShape) (by simp [given, listed])
          (by simp [given, listed]) trivial
      | some parts => exact .of_ok (a := parts) (by simp [listed]) (by simp [given, listed])
    · exact .of_ok (a := []) (by simp [given]) (by simp [given])

/-- That a value is too long to be written is reported. -/
theorem textOf_words (value : Document) : ¬ FailsWith UnitError.Silent (textOf value) := by
  rw [textOf, FailsWith.mapError_iff]
  intro fails
  obtain ⟨_, silent, _⟩ := fails
  exact silent

theorem readLines_words : ¬ FailsWith UnitError.Silent (file.readLines domain space) := by
  unfold readLines
  split
  · simp [UnitError.Silent]
  · split <;> simp [UnitError.Silent]

theorem readTags_words (domain : Domain) (written : List (Document × Document)) (tags : TagMap)
    (space : Namespace) : ¬ FailsWith UnitError.Silent (readTags domain written tags space) := by
  induction written generalizing tags space with
  | nil => simp [readTags]
  | cons entry rest ih =>
    obtain ⟨text, tag⟩ := entry
    rw [readTags]
    refine FailsWith.not_bind (textOf_words text) fun line _ => ?_
    split
    · simp [UnitError.Silent]
    · exact ih _ _

theorem readFixed_words (domain : Domain) (names : List Document) (space : Namespace) :
    ¬ FailsWith UnitError.Silent (readFixed domain names space) := by
  induction names generalizing space with
  | nil => simp [readFixed]
  | cons name rest ih =>
    rw [readFixed]
    refine FailsWith.not_bind (textOf_words name) fun text _ => ?_
    split
    · simp [UnitError.Silent]
    · simp [UnitError.Silent]
    · intro fails
      exact ih _ (FailsWith.bind_pure_iff.mp fails)

theorem tagEntries_hinges (file : UnitFile) :
    Hinges (Unkeyed file.entries "tags") UnitError.Silent file.tagEntries := by
  rcases tagEntries_cases file with ⟨unkeyed, read⟩ | ⟨keyed, read⟩
  · exact .of_error unkeyed read trivial
  · exact .of_ok keyed read

theorem eq_sectionOf {found : List (Document × Document)} (read : file.tagEntries = .ok found) :
    found = sectionOf file.entries "tags" := by
  rcases tagEntries_cases file with ⟨_, refused⟩ | ⟨_, other⟩
  · rw [refused] at read
    cases read
  · exact Except.ok.inj (read.symm.trans other)

/-- A unit whose constraints are read still fails if its tags are no mapping or, once they are
read, its fixed variables are no list. -/
theorem read_fails_iff :
    FailsWith UnitError.Silent (file.read domain space) ↔
      ∃ constraints next, file.readLines domain space = .ok (constraints, next) ∧
        (Unkeyed file.entries "tags" ∨
          ∃ tags later, readTags domain (sectionOf file.entries "tags") .empty next =
            .ok (tags, later) ∧ Unlisted file.entries "fixed") := by
  rw [read, FailsWith.bind_iff, or_iff_right readLines_words, Prod.exists]
  refine exists₂_congr fun constraints next => and_congr_right fun _ => ?_
  refine (tagEntries_hinges file).bind_fails_iff fun found tagged => ?_
  rw [eq_sectionOf tagged, FailsWith.bind_iff, or_iff_right (readTags_words _ _ _ _), Prod.exists]
  refine exists₂_congr fun tags later => and_congr_right fun _ => ?_
  refine (partsOf_hinges file "fixed").bind_fails_iff_first fun names fails => ?_
  exact readFixed_words domain names later (FailsWith.bind_pure_iff.mp fails)

theorem readEffects_fails_iff :
    FailsWith UnitError.Silent (file.readEffects domain) ↔ Unlisted file.entries "effects" := by
  refine (partsOf_hinges file "effects").bind_fails_iff_first fun levels => ?_
  split
  · split <;> simp [UnitError.Silent]
  · simp [UnitError.Silent]

theorem readWhole_words {text quotation : String} :
    ¬ FailsWith UnitError.Silent (readWhole text quotation) := by
  unfold readWhole
  split <;> simp [UnitError.Silent]

theorem readCount_fails_iff (value : Document) :
    FailsWith UnitError.Silent (readCount value) ↔ value.Numberless := by
  cases value with
  | bool value => simp [readCount, Numberless]
  | int n => simp [readCount, Numberless]
  | decimal shown =>
    cases whole : Json.wholeOf? shown with
    | some n => simp [readCount, Numberless, whole]
    | none =>
      simp only [readCount, Numberless, whole, FailsWith.error_iff, true_and]
      split <;> simp [*, UnitError.Silent]
  | text text => exact iff_of_false readWhole_words id
  | bytes bytes => exact iff_of_false readWhole_words id
  | _ => simp [readCount, Numberless, UnitError.Silent]

theorem paramCount_fails_iff :
    FailsWith UnitError.Silent file.paramCount ↔
      ∃ value, find? file.entries "params" = some value ∧ value.Numberless := by
  rw [paramCount, FailsWith.map_iff, readCount_fails_iff]
  cases find? file.entries "params" with
  | none => simp [Numberless]
  | some value => simp

end UnitFile

end FlowTyping
