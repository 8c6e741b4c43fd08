import FlowTyping.Proofs.ReadUnits
import Mathlib.Data.List.TakeWhile

/-!
How runs on a unit end. With a configuration and a unit that are documents, a run comes to an exit
code: 0 or 1 for the verdict or the signature, and 3 for anything that is refused. Only where it
comes to a value that cannot be used and that nothing reports, it has none.
-/

namespace FlowTyping.CommandLine

open Document

variable {arguments : List String} {files : Files} {request : Request} {job : Job}
variable {settings : Option Document} {document : Document} {config : Config}
variable {threshold : Threshold} {domain : Domain} {file : UnitFile} {outcome : Outcome}

def configOf : Option Document → Except ConfigError Config
  | none => .ok {}
  | some document => Config.ofDocument (if document.isGiven then document else .mapping [])

/-- The configuration, if there is one, and the unit of a job are files that hold documents. -/
structure Readable (files : Files) (request : Request) (job : Job) (settings : Option Document)
    (document : Document) : Prop where
  settings : ∃ path, firstPresent files
    (configNames.map (TreePath.ofText (request.config.getD "")).child) =
      .ok (settings.map fun given => (path, .document given))
  unit : files (TreePath.ofText job.unit) = .found (.document document)

/-- The ways in which a unit has values of the wrong shape, each with what has to be read before
the value is come to. Only a signature asks for effects and parameters. -/
inductive MisshapenUnit (domain : Domain) (file : UnitFile) : Task → Prop where
  | tags {task : Task} {constraints : List Flow} {next : Namespace}
      (taken : file.readLines domain (Namespace.create 1 "x") = .ok (constraints, next))
      (unkeyed : Unkeyed file.entries "tags") : MisshapenUnit domain file task
  | fixed {task : Task} {constraints : List Flow} {next later : Namespace} {tags : TagMap}
      (taken : file.readLines domain (Namespace.create 1 "x") = .ok (constraints, next))
      (tagged : UnitFile.readTags domain (sectionOf file.entries "tags") .empty next =
        .ok (tags, later))
      (unlisted : Unlisted file.entries "fixed") : MisshapenUnit domain file task
  | effects {unit : AnalysedUnit} (read : file.read domain (Namespace.create 1 "x") = .ok unit)
      (unlisted : Unlisted file.entries "effects") : MisshapenUnit domain file .signature
  | params {unit : AnalysedUnit} {effects : Effects} {value : Document}
      (read : file.read domain (Namespace.create 1 "x") = .ok unit)
      (found : file.readEffects domain = .ok effects)
      (there : find? file.entries "params" = some value) (numberless : value.Numberless) :
      MisshapenUnit domain file .signature

/-- The ways in which the documents of a run have values that cannot be used and that nothing
reports. -/
inductive Misshapen (job : Job) (settings : Option Document) (document : Document) : Prop where
  | settings {entries : List (Document × Document)} (given : settings = some (.mapping entries))
      (wrong : Config.Misshapen entries)
  | unit {config : Config} {domain : Domain} {file : UnitFile}
      (configured : configOf settings = .ok config) (built : config.domain = .ok domain)
      (opened : UnitFile.ofDocument (TreePath.ofText job.unit).shown document = .ok file)
      (wrong : MisshapenUnit domain file job.task)

/-- All that a job needs has been read, over the domain that is configured. -/
structure Reads (job : Job) (settings : Option Document) (document : Document) (domain : Domain)
    (file : UnitFile) (unit : AnalysedUnit) : Prop where
  configured : ∃ config, configOf settings = .ok config ∧ config.domain = .ok domain
  opened : UnitFile.ofDocument (TreePath.ofText job.unit).shown document = .ok file
  read : file.read domain (Namespace.create 1 "x") = .ok unit
  boundary : job.task = .signature →
    ∃ effects count, file.readEffects domain = .ok effects ∧ file.paramCount = .ok count

/-- What the outcome of a job means. -/
inductive Ends (job : Job) (settings : Option Document) (document : Document) : Outcome → Prop where
  | solved {domain : Domain} {file : UnitFile} {unit : AnalysedUnit} (task : job.task = .check)
      (reads : Reads job settings document domain file unit)
      (solvable : ∃ σ, Solution domain.lattice unit.constraints σ) (lines : List String) :
      Ends job settings document (.worked 0 ("SAT" :: lines) [])
  | unsolved {domain : Domain} {file : UnitFile} {unit : AnalysedUnit} (task : job.task = .check)
      (reads : Reads job settings document domain file unit)
      (unsolvable : ¬ ∃ σ, Solution domain.lattice unit.constraints σ)
      (told : ∀ c ∈ unit.constraints.conflicts domain.lattice unit.tags, c.isLong = false)
      (reason : String) (log : List String) :
      Ends job settings document (.worked 1 (("UNSAT: " ++ reason) ::
        (unit.constraints.conflicts domain.lattice unit.tags).map (fun c => "  " ++ c.shown)) log)
  /-- A tag turns out too long to be written when its conflict is about to be told. -/
  | untold {domain : Domain} {file : UnitFile} {unit : AnalysedUnit} (task : job.task = .check)
      (reads : Reads job settings document domain file unit)
      (unsolvable : ¬ ∃ σ, Solution domain.lattice unit.constraints σ)
      (long : ∃ c ∈ unit.constraints.conflicts domain.lattice unit.tags, c.isLong = true)
      (reason message : String) (lines log : List String) :
      Ends job settings document
        (.worked 3 (("UNSAT: " ++ reason) :: lines) (log ++ [errorLine message]))
  | printed {domain : Domain} {file : UnitFile} {unit : AnalysedUnit} {effects : Effects}
      {count : Nat} {signature : Signature} (task : job.task = .signature)
      (reads : Reads job settings document domain file unit)
      (found : file.readEffects domain = .ok effects) (counted : file.paramCount = .ok count)
      (stated : (Signature.ofUnit domain.lattice unit.constraints unit.space count effects).1 =
        .ok signature) :
      Ends job settings document (.worked 0 (signatureLines domain job.json signature) [])
  | refused (unread : ∀ domain file unit, ¬ Reads job settings document domain file unit)
      (message : String) : Ends job settings document (report message)

theorem Ends.exists_code (ends : Ends job settings document outcome) :
    ∃ code output errors, outcome = .worked code output errors ∧
      (code = 0 ∨ code = 1 ∨ code = 3) := by
  cases ends with
  | solved | printed => exact ⟨0, _, _, rfl, Or.inl rfl⟩
  | unsolved => exact ⟨1, _, _, rfl, Or.inr (Or.inl rfl)⟩
  | untold | refused => exact ⟨3, _, _, rfl, Or.inr (Or.inr rfl)⟩

theorem reportedOnLoad_config (e : ConfigError) :
    reportedOnLoad (.config e) = false ↔ e.Silent := by
  cases e <;> simp [reportedOnLoad, Error.family, ConfigError.Silent]

theorem reportedAtWork_unit (e : UnitError) : reportedAtWork (.unit e) = false ↔ e.Silent := by
  cases e with
  | parse error =>
    cases long : error.isTooLong <;>
      simp [reportedAtWork, Error.family, UnitError.Silent, long]
  | _ => simp [reportedAtWork, Error.family, UnitError.Silent]

/-- The error is not reported at work. -/
def Silent (e : Error) : Prop := reportedAtWork e = false

theorem ofUnit_fails_iff {α : Type} {reading : Except UnitError α} :
    FailsWith Silent (ofUnit reading) ↔ FailsWith UnitError.Silent reading := by
  cases reading with
  | error e => simp [ofUnit, Silent, reportedAtWork_unit]
  | ok a => simp [ofUnit]

theorem ofUnit_eq_ok_iff {α : Type} {reading : Except UnitError α} {a : α} :
    ofUnit reading = .ok a ↔ reading = .ok a := by
  cases reading <;> simp [ofUnit]

theorem checkUnit_eq {unit : AnalysedUnit} {verdict : Verdict}
    (read : file.read domain (Namespace.create 1 "x") = .ok unit)
    (solved : domain.solve unit.constraints unit.tags unit.fixed
      (if config.crossCheck then .search else .off) = .ok verdict) :
    checkUnit config threshold domain file =
      .ok (announce domain threshold unit.space.label verdict) := by
  simp only [checkUnit, read, ofUnit, bind, Except.bind, solved]
  rfl

theorem checkUnit_of_read (config : Config) (threshold : Threshold) {unit : AnalysedUnit}
    (built : domain.Built) (read : file.read domain (Namespace.create 1 "x") = .ok unit) :
    ((∃ σ, Solution domain.lattice unit.constraints σ) ∧ ∃ assignment,
      checkUnit config threshold domain file =
        .ok (announce domain threshold unit.space.label (.satisfiable assignment))) ∨
    ((¬ ∃ σ, Solution domain.lattice unit.constraints σ) ∧ ∃ reason,
      checkUnit config threshold domain file =
        .ok (announce domain threshold unit.space.label (.unsatisfiable reason
          (unit.constraints.conflicts domain.lattice unit.tags)))) := by
  have own : ∀ sat, (if config.crossCheck then CrossCheck.search else .off) ≠ .given sat := by
    intro sat
    split <;> simp
  rcases domain.solve_cases built (UnitFile.read_over built read) unit.tags unit.fixed own with
    ⟨solvable, assignment, solved⟩ | ⟨unsolvable, reason, solved⟩
  · exact Or.inl ⟨solvable, assignment, checkUnit_eq read solved⟩
  · exact Or.inr ⟨unsolvable, reason, checkUnit_eq read solved⟩

theorem checkUnit_fails_iff (built : domain.Built) :
    FailsWith Silent (checkUnit config threshold domain file) ↔
      FailsWith UnitError.Silent (file.read domain (Namespace.create 1 "x")) := by
  cases read : file.read domain (Namespace.create 1 "x") with
  | error e =>
    have refused : checkUnit config threshold domain file = .error (.unit e) := by
      simp only [checkUnit, read, ofUnit, bind, Except.bind]
    simp [refused, Silent, reportedAtWork_unit]
  | ok unit =>
    rcases checkUnit_of_read config threshold built read with
      ⟨_, assignment, done⟩ | ⟨_, reason, done⟩
    · simp [done]
    · simp [done]

/-- The signature of a unit over a built domain is printed once all it needs has been read. -/
theorem printSignature_of_read {json : Bool} {unit : AnalysedUnit} {effects : Effects}
    {count : Nat} (built : domain.Built)
    (read : file.read domain (Namespace.create 1 "x") = .ok unit)
    (found : file.readEffects domain = .ok effects) (counted : file.paramCount = .ok count) :
    ∃ signature, (Signature.ofUnit domain.lattice unit.constraints unit.space count effects).1 =
        .ok signature ∧
      printSignature domain json file =
        .ok (.worked 0 (signatureLines domain json signature) []) := by
  obtain ⟨signature, stated⟩ := Signature.ofUnit_ok built (UnitFile.read_over built read)
    unit.space count effects
  refine ⟨signature, stated, ?_⟩
  simp only [printSignature, read, found, counted, ofUnit, bind, Except.bind, stated]
  rfl

theorem printSignature_fails_iff {json : Bool} (built : domain.Built) :
    FailsWith Silent (printSignature domain json file) ↔
      FailsWith UnitError.Silent (file.read domain (Namespace.create 1 "x")) ∨
      ∃ unit, file.read domain (Namespace.create 1 "x") = .ok unit ∧
        (FailsWith UnitError.Silent (file.readEffects domain) ∨
          ∃ effects, file.readEffects domain = .ok effects ∧
            FailsWith UnitError.Silent file.paramCount) := by
  rw [printSignature, FailsWith.bind_iff, ofUnit_fails_iff]
  simp only [ofUnit_eq_ok_iff]
  refine or_congr_right (exists_congr fun unit => and_congr_right fun read => ?_)
  rw [FailsWith.bind_iff, ofUnit_fails_iff]
  simp only [ofUnit_eq_ok_iff]
  refine or_congr_right (exists_congr fun effects => and_congr_right fun found => ?_)
  rw [FailsWith.bind_iff, ofUnit_fails_iff]
  simp only [ofUnit_eq_ok_iff]
  refine or_iff_left ?_
  intro rest
  obtain ⟨count, _, fails⟩ := rest
  obtain ⟨signature, stated⟩ := Signature.ofUnit_ok built (UnitFile.read_over built read)
    unit.space count effects
  simp only [stated] at fails
  exact absurd fails (by simp [pure, Except.pure])

/-- What is done for a job once the domain is built and the unit opened. -/
def perform (config : Config) (threshold : Threshold) (job : Job) (domain : Domain)
    (file : UnitFile) : Except Error Outcome :=
  match job.task with
  | .check => checkUnit config threshold domain file
  | .signature => printSignature domain job.json file

/-- A unit that cannot be read for a value of the wrong shape is misshapen for every task. -/
theorem misshapenUnit_of_read
    (fails : FailsWith UnitError.Silent (file.read domain (Namespace.create 1 "x")))
    (task : Task) : MisshapenUnit domain file task := by
  obtain ⟨constraints, next, taken, odd⟩ := UnitFile.read_fails_iff.mp fails
  rcases odd with unkeyed | ⟨tags, later, tagged, unlisted⟩
  · exact .tags taken unkeyed
  · exact .fixed taken tagged unlisted

theorem misshapenUnit_check_iff : MisshapenUnit domain file .check ↔
    FailsWith UnitError.Silent (file.read domain (Namespace.create 1 "x")) := by
  constructor
  · intro wrong
    cases wrong with
    | tags taken unkeyed => exact UnitFile.read_fails_iff.mpr ⟨_, _, taken, Or.inl unkeyed⟩
    | fixed taken tagged unlisted =>
      exact UnitFile.read_fails_iff.mpr ⟨_, _, taken, Or.inr ⟨_, _, tagged, unlisted⟩⟩
  · intro fails
    exact misshapenUnit_of_read fails .check

theorem misshapenUnit_signature_iff : MisshapenUnit domain file .signature ↔
    FailsWith UnitError.Silent (file.read domain (Namespace.create 1 "x")) ∨
      ∃ unit, file.read domain (Namespace.create 1 "x") = .ok unit ∧
        (FailsWith UnitError.Silent (file.readEffects domain) ∨
          ∃ effects, file.readEffects domain = .ok effects ∧
            FailsWith UnitError.Silent file.paramCount) := by
  constructor
  · intro wrong
    cases wrong with
    | tags taken unkeyed =>
      exact Or.inl (UnitFile.read_fails_iff.mpr ⟨_, _, taken, Or.inl unkeyed⟩)
    | fixed taken tagged unlisted =>
      exact Or.inl (UnitFile.read_fails_iff.mpr ⟨_, _, taken, Or.inr ⟨_, _, tagged, unlisted⟩⟩)
    | effects read unlisted =>
      exact Or.inr ⟨_, read, Or.inl (UnitFile.readEffects_fails_iff.mpr unlisted)⟩
    | params read found there numberless =>
      have fails := UnitFile.paramCount_fails_iff.mpr ⟨_, there, numberless⟩
      exact Or.inr ⟨_, read, Or.inr ⟨_, found, fails⟩⟩
  · intro fails
    rcases fails with fails | ⟨unit, read, fails | ⟨effects, found, fails⟩⟩
    · exact misshapenUnit_of_read fails .signature
    · exact .effects read (UnitFile.readEffects_fails_iff.mp fails)
    · obtain ⟨value, there, numberless⟩ := UnitFile.paramCount_fails_iff.mp fails
      exact .params read found there numberless

theorem perform_fails_iff (built : domain.Built) :
    FailsWith Silent (perform config threshold job domain file) ↔
      MisshapenUnit domain file job.task := by
  unfold perform
  cases job.task with
  | check => rw [checkUnit_fails_iff built, misshapenUnit_check_iff]
  | signature => rw [printSignature_fails_iff built, misshapenUnit_signature_iff]

/-- What has been read of a job is read over the one domain that is configured, from the one
unit that is opened. -/
theorem Reads.over {other : Domain} {read : UnitFile} {unit : AnalysedUnit}
    (reads : Reads job settings document other read unit)
    (settled : configOf settings = .ok config) (built : config.domain = .ok domain)
    (opened : UnitFile.ofDocument (TreePath.ofText job.unit).shown document = .ok file) :
    Reads job settings document domain file unit := by
  obtain ⟨again, same, domains⟩ := reads.configured
  have configs : config = again := Except.ok.inj (settled.symm.trans same)
  subst configs
  have domains : domain = other := Except.ok.inj (built.symm.trans domains)
  have files : file = read := Except.ok.inj (opened.symm.trans reads.opened)
  subst domains files
  exact reads

theorem perform_of_unread {e : UnitError}
    (failed : file.read domain (Namespace.create 1 "x") = .error e) :
    perform config threshold job domain file = .error (.unit e) := by
  unfold perform
  cases job.task with
  | check => simp only [checkUnit, failed, ofUnit, bind, Except.bind]
  | signature => simp only [printSignature, failed, ofUnit, bind, Except.bind]

theorem printSignature_of_unready {json : Bool} {unit : AnalysedUnit}
    (read : file.read domain (Namespace.create 1 "x") = .ok unit)
    (unready : ¬ ∃ effects count, file.readEffects domain = .ok effects ∧
      file.paramCount = .ok count) :
    ∃ e, printSignature domain json file = .error e := by
  cases found : file.readEffects domain with
  | error e =>
    refine ⟨.unit e, ?_⟩
    simp only [printSignature, read, found, ofUnit, bind, Except.bind]
  | ok effects =>
    cases counted : file.paramCount with
    | error e =>
      refine ⟨.unit e, ?_⟩
      simp only [printSignature, read, found, counted, ofUnit, bind, Except.bind]
    | ok count => exact absurd ⟨effects, count, found, counted⟩ unready

/-- That there is no solution is told with all conflicts, unless a tag is too long for that. -/
theorem ends_announce {unit : AnalysedUnit} {labels : Labels} {reason : UnsatReason}
    (task : job.task = .check) (reads : Reads job settings document domain file unit)
    (unsolvable : ¬ ∃ σ, Solution domain.lattice unit.constraints σ) :
    Ends job settings document (announce domain threshold labels (.unsatisfiable reason
      (unit.constraints.conflicts domain.lattice unit.tags))) := by
  simp only [announce]
  split
  · rename_i long
    exact .untold task reads unsolvable (List.any_eq_true.mp long) _ _ _ _
  · rename_i short
    have told : ∀ c ∈ unit.constraints.conflicts domain.lattice unit.tags, c.isLong = false := by
      simpa using short
    have all : (unit.constraints.conflicts domain.lattice unit.tags).takeWhile
        (fun c => !c.isLong) = unit.constraints.conflicts domain.lattice unit.tags := by
      apply List.takeWhile_eq_self_iff.mpr
      intro c member
      simp [told c member]
    rw [all]
    exact .unsolved task reads unsolvable told _ _

/-- What a job comes to once its domain is built and its unit opened. -/
theorem perform_ends (threshold : Threshold) (settled : configOf settings = .ok config)
    (built : config.domain = .ok domain)
    (opened : UnitFile.ofDocument (TreePath.ofText job.unit).shown document = .ok file) :
    (∃ outcome, perform config threshold job domain file = .ok outcome ∧
      Ends job settings document outcome) ∨
    ((∃ e, perform config threshold job domain file = .error e) ∧
      ∀ domain file unit, ¬ Reads job settings document domain file unit) := by
  have accepted := Config.domain_built built
  cases read : file.read domain (Namespace.create 1 "x") with
  | error e =>
    refine Or.inr ⟨⟨.unit e, perform_of_unread read⟩, ?_⟩
    intro other _ unit reads
    have again := (reads.over settled built opened).read
    rw [read] at again
    cases again
  | ok unit =>
    unfold perform
    cases task : job.task with
    | check =>
      have reads : Reads job settings document domain file unit :=
        ⟨⟨config, settled, built⟩, opened, read, by simp [task]⟩
      rcases checkUnit_of_read config threshold accepted read with
        ⟨solvable, assignment, done⟩ | ⟨unsolvable, reason, done⟩
      · exact Or.inl ⟨_, done, .solved task reads solvable _⟩
      · exact Or.inl ⟨_, done, ends_announce task reads unsolvable⟩
    | signature =>
      by_cases ready : ∃ effects count, file.readEffects domain = .ok effects ∧
        file.paramCount = .ok count
      · obtain ⟨effects, count, found, counted⟩ := ready
        have reads : Reads job settings document domain file unit :=
          ⟨⟨config, settled, built⟩, opened, read, fun _ => ⟨effects, count, found, counted⟩⟩
        obtain ⟨signature, stated, done⟩ := printSignature_of_read accepted read found counted
        exact Or.inl ⟨_, done, .printed task reads found counted stated⟩
      · refine Or.inr ⟨printSignature_of_unready read ready, ?_⟩
        intro other _ unit reads
        exact ready ((reads.over settled built opened).boundary task)

theorem loadConfig_eq (readable : Readable files request job settings document) :
    loadConfig files (TreePath.ofText (request.config.getD "")) =
      (configOf settings).mapError .config := by
  obtain ⟨path, present⟩ := readable.settings
  cases settings with
  | none =>
    simp only [Option.map_none] at present
    simp only [loadConfig, present, bind, Except.bind, configOf]
    rfl
  | some given =>
    simp only [Option.map_some] at present
    simp only [loadConfig, present, bind, Except.bind, openDocument, configOf]
    cases Config.ofDocument (if given.isGiven then given else .mapping []) with
    | error e => rfl
    | ok config => rfl

/-- Only a mapping with entries can have values of the wrong shape. -/
theorem configOf_fails_iff :
    FailsWith ConfigError.Silent (configOf settings) ↔
      ∃ entries, settings = some (.mapping entries) ∧ Config.Misshapen entries := by
  cases settings with
  | none => simp [configOf]
  | some given =>
    by_cases keyed : ∃ entries, given = .mapping entries
    · obtain ⟨entries, same⟩ := keyed
      subst same
      have read : configOf (some (.mapping entries)) = Config.ofDocument (.mapping entries) := by
        cases entries <;> rfl
      simp [read, Config.ofDocument_fails_iff]
    · have words : ¬ FailsWith ConfigError.Silent (configOf (some given)) := by
        rw [configOf]
        split
        · cases given with
          | mapping entries => exact absurd ⟨entries, rfl⟩ keyed
          | _ => simp [Config.ofDocument, ConfigError.Silent]
        · rw [Config.ofDocument_fails_iff]
          exact Config.not_misshapen_nil
      refine iff_of_false words ?_
      intro misshapen
      obtain ⟨entries, same, _⟩ := misshapen
      exact keyed ⟨entries, Option.some.inj same⟩

theorem misshapen_iff_of_error {e : ConfigError} (refused : configOf settings = .error e) :
    Misshapen job settings document ↔ e.Silent := by
  constructor
  · intro misshapen
    cases misshapen with
    | settings given wrong =>
      have fails := configOf_fails_iff.mpr ⟨_, given, wrong⟩
      rwa [refused, FailsWith.error_iff] at fails
    | unit settled =>
      rw [refused] at settled
      cases settled
  · intro shape
    obtain ⟨entries, given, wrong⟩ := configOf_fails_iff.mp ⟨e, shape, refused⟩
    exact .settings given wrong

theorem misshapen_iff_of_ok (settled : configOf settings = .ok config) :
    Misshapen job settings document ↔ ∃ domain file, config.domain = .ok domain ∧
      UnitFile.ofDocument (TreePath.ofText job.unit).shown document = .ok file ∧
      MisshapenUnit domain file job.task := by
  constructor
  · intro misshapen
    cases misshapen with
    | settings given wrong =>
      have fails := configOf_fails_iff.mpr ⟨_, given, wrong⟩
      rw [settled] at fails
      exact absurd fails (by simp)
    | unit again built opened wrong =>
      have same := Except.ok.inj (settled.symm.trans again)
      subst same
      exact ⟨_, _, built, opened, wrong⟩
  · intro unit
    obtain ⟨domain, file, built, opened, wrong⟩ := unit
    exact .unit settled built opened wrong

/-- Where all has been read, no value is of the wrong shape. -/
theorem Reads.not_misshapen {unit : AnalysedUnit}
    (reads : Reads job settings document domain file unit) :
    ¬ Misshapen job settings document := by
  obtain ⟨⟨config, settled, built⟩, opened, read, boundary⟩ := reads
  rw [misshapen_iff_of_ok settled]
  intro misshapen
  obtain ⟨again, other, domains, files, wrong⟩ := misshapen
  rw [← Except.ok.inj (built.symm.trans domains), ← Except.ok.inj (opened.symm.trans files)]
    at wrong
  cases task : job.task with
  | check =>
    rw [task, misshapenUnit_check_iff, read] at wrong
    exact absurd wrong (by simp)
  | signature =>
    obtain ⟨effects, count, found, counted⟩ := boundary task
    rw [task, misshapenUnit_signature_iff, read] at wrong
    simp [found, counted] at wrong

/-- A job comes to an outcome that means what it says, unless the documents are misshapen. -/
def Documented (job : Job) (settings : Option Document) (document : Document)
    (result : Except Error Outcome) : Prop :=
  (Misshapen job settings document → ∃ e, result = .error e) ∧
    (¬ Misshapen job settings document → ∃ outcome, result = .ok outcome ∧
      Ends job settings document outcome)

/-- It is enough that the errors that go unreported are those of misshapen documents. -/
theorem documented_error {reported : Error → Bool} {e : Error}
    (silent : reported e = false ↔ Misshapen job settings document)
    (unread : ∀ domain file unit, ¬ Reads job settings document domain file unit) :
    Documented job settings document (settle reported (.error e)) := by
  cases told : reported e with
  | false =>
    refine ⟨fun _ => ⟨e, by simp [settle, told]⟩, ?_⟩
    intro fine
    exact absurd (silent.mp told) fine
  | true =>
    refine ⟨?_, fun _ => ⟨report (e.message fun v => v.shownAs ""), ?_, .refused unread _⟩⟩
    · intro wrong
      have untold := silent.mpr wrong
      rw [told] at untold
      cases untold
    · simp only [settle, told, if_true]

theorem ofDocument_words {path : String} :
    ¬ FailsWith UnitError.Silent (UnitFile.ofDocument path document) := by
  unfold UnitFile.ofDocument
  dsimp only
  split
  · split <;> simp [UnitError.Silent]
  · simp [UnitError.Silent]

theorem work_eq_perform (threshold : Threshold) (built : config.domain = .ok domain)
    (opened : UnitFile.ofDocument (TreePath.ofText job.unit).shown document = .ok file) :
    work config threshold job (TreePath.ofText job.unit) (.document document) =
      perform config threshold job domain file := by
  simp only [work, built, openUnit, openDocument, bind, Except.bind, opened]
  rfl

theorem perform_documented (threshold : Threshold) (settled : configOf settings = .ok config)
    (built : config.domain = .ok domain)
    (opened : UnitFile.ofDocument (TreePath.ofText job.unit).shown document = .ok file) :
    Documented job settings document
      (settle reportedAtWork (perform config threshold job domain file)) := by
  have fails : FailsWith Silent (perform config threshold job domain file) ↔
      Misshapen job settings document := by
    rw [perform_fails_iff (Config.domain_built built), misshapen_iff_of_ok settled]
    simp [built, opened]
  rcases perform_ends threshold settled built opened with
    ⟨outcome, done, ends⟩ | ⟨⟨e, refused⟩, unread⟩
  · rw [done]
    refine ⟨?_, fun _ => ⟨outcome, rfl, ends⟩⟩
    intro wrong
    have silent := fails.mpr wrong
    rw [done] at silent
    exact absurd silent (by simp)
  · rw [refused]
    refine documented_error ?_ unread
    rw [← fails, refused, FailsWith.error_iff, Silent]

/-- A domain that is not built and a unit that is not opened have words, whatever the rest of
the documents is. -/
theorem work_documented (threshold : Threshold) (settled : configOf settings = .ok config) :
    Documented job settings document (settle reportedAtWork
      (work config threshold job (TreePath.ofText job.unit) (.document document))) := by
  cases built : config.domain with
  | error e =>
    have refused : work config threshold job (TreePath.ofText job.unit) (.document document) =
        .error (.lattice e) := by
      simp only [work, built]
      rfl
    rw [refused]
    apply documented_error
    · simp [misshapen_iff_of_ok settled, built, reportedAtWork, Error.family]
    · intro domain file unit reads
      obtain ⟨again, same, other⟩ := reads.configured
      rw [← Except.ok.inj (settled.symm.trans same), built] at other
      cases other
  | ok domain =>
    cases opened : UnitFile.ofDocument (TreePath.ofText job.unit).shown document with
    | error e =>
      have refused : work config threshold job (TreePath.ofText job.unit) (.document document) =
          .error (.unit e) := by
        simp only [work, built, openUnit, openDocument, bind, Except.bind, opened]
        rfl
      have words : ¬ e.Silent := fun shape => ofDocument_words ⟨e, shape, opened⟩
      rw [refused]
      apply documented_error
      · rw [reportedAtWork_unit]
        simp [misshapen_iff_of_ok settled, opened, words]
      · intro domain file unit reads
        have other := reads.opened
        rw [opened] at other
        cases other
    | ok file =>
      rw [work_eq_perform threshold built opened]
      exact perform_documented threshold settled built opened

/-- A run on readable documents ends with a documented exit code, and what it prints fits the
code; only where a value that it comes to is of the wrong shape, it ends with an error that
nothing reports. -/
theorem run_ends_documented (read : readArguments arguments = .ok request)
    (asked : request.job = some job)
    (readable : Readable files request job settings document) :
    (Misshapen job settings document → ∃ e, run arguments files = .error e) ∧
    (¬ Misshapen job settings document → ∃ code output errors,
      run arguments files = .ok (.worked code output errors) ∧
      (code = 0 ∨ code = 1 ∨ code = 3) ∧
      Ends job settings document (.worked code output errors)) := by
  have documented : Documented job settings document (run arguments files) := by
    simp only [run, read, asked, loadConfig_eq readable, readable.unit]
    cases settled : configOf settings with
    | error e =>
      apply documented_error
      · rw [reportedOnLoad_config, misshapen_iff_of_error settled]
      · intro domain file unit reads
        obtain ⟨config, same, _⟩ := reads.configured
        rw [settled] at same
        cases same
    | ok config => exact work_documented _ settled
  refine ⟨documented.1, ?_⟩
  intro fine
  obtain ⟨outcome, done, ends⟩ := documented.2 fine
  obtain ⟨code, output, errors, same, known⟩ := ends.exists_code
  subst same
  exact ⟨code, output, errors, done, known, ends⟩

def numberedUnit : List (Document × Document) :=
  [(.text "constraints", .list []), (.text "fixed", .int 5)]

/-- A unit with odd values that can be used all the same: an empty set for the tags, the names of a
mapping for the effects, and a number in bytes. -/
def oddUnit : List (Document × Document) :=
  [(.text "constraints", .list []), (.text "tags", .set []),
    (.text "effects", .mapping [(.text "LOW", .null)]), (.text "params", .bytes [0x31])]

/-- A configuration with such values: a cover that is a text of two characters, and a number that
is as good as nothing. -/
def oddSettings : List (Document × Document) :=
  [(.text "domain", .mapping [(.text "covers", .list [.text "ab"])]), (.text "logging", .int 0)]

/-- A configuration with a principal that is too long to be written. -/
def longSettings : List (Document × Document) :=
  [(.text "domain", .mapping
    [(.text "principals", .list [.int (Int.ofNat (Text.firstLonger Text.digitLimit))])])]

theorem run_ends_documented_odd :
    (∃ e, run ["check", "u"] (FileTree.files ⟨[(["u"], .document (.mapping numberedUnit))]⟩) =
      .error e) ∧
    (∃ e, run ["check", "u"] (FileTree.files
        ⟨[([".gradflow.yml"], .document (.mapping longSettings)),
          (["u"], .document (.mapping oddUnit))]⟩) = .error e) ∧
    ∃ code output errors, run ["signature", "u"] (FileTree.files
        ⟨[([".gradflow.yml"], .document (.mapping oddSettings)),
          (["u"], .document (.mapping oddUnit))]⟩) = .ok (.worked code output errors) ∧
      (code = 0 ∨ code = 1 ∨ code = 3) ∧
      Ends ⟨.signature, "u", false⟩ (some (.mapping oddSettings)) (.mapping oddUnit)
        (.worked code output errors) := by
  have plain : "u".startsWith "-" = false := by decide +kernel
  refine ⟨?_, ?_, ?_⟩
  · have readable : Readable (FileTree.files ⟨[(["u"], .document (.mapping numberedUnit))]⟩)
        { job := some ⟨.check, "u", false⟩ } ⟨.check, "u", false⟩ none
        (.mapping numberedUnit) :=
      ⟨⟨⟨"", []⟩, rfl⟩, rfl⟩
    refine (run_ends_documented (readArguments_task rfl (Or.inl plain)) rfl readable).1 ?_
    exact .unit rfl rfl rfl (.fixed rfl rfl ⟨.int 5, rfl, rfl, rfl⟩)
  · have readable : Readable (FileTree.files
        ⟨[([".gradflow.yml"], .document (.mapping longSettings)),
          (["u"], .document (.mapping oddUnit))]⟩)
        { job := some ⟨.check, "u", false⟩ } ⟨.check, "u", false⟩ (some (.mapping longSettings))
        (.mapping oddUnit) :=
      ⟨⟨⟨"", [".gradflow.yml"]⟩, rfl⟩, rfl⟩
    refine (run_ends_documented (readArguments_task rfl (Or.inl plain)) rfl readable).1 ?_
    have long : (Document.int (Int.ofNat (Text.firstLonger Text.digitLimit))).isLong = true := by
      unfold isLong
      exact Text.isTooLong_ofNat (Nat.le_refl _)
    exact .settings rfl (.lists ⟨"lowhigh", .twoPoint, rfl, rfl⟩
      (Or.inl (Or.inr ⟨_, rfl, _, List.mem_singleton.mpr rfl, long⟩)))
  · refine (run_ends_documented (readArguments_task rfl (Or.inl plain)) rfl
      ⟨⟨⟨"", [".gradflow.yml"]⟩, rfl⟩, rfl⟩).2 ?_
    exact Reads.not_misshapen ⟨⟨_, rfl, rfl⟩, rfl, rfl, fun _ => ⟨_, _, rfl, rfl⟩⟩

/-- Nothing reports the number, so that the run has no exit code. -/
theorem fixed_number_unreported :
    run ["check", "u"] (FileTree.files ⟨[(["u"], .document (.mapping numberedUnit))]⟩) =
        .error (.unit (.fault .wrongShape)) ∧
      ¬ ∃ outcome, run ["check", "u"]
        (FileTree.files ⟨[(["u"], .document (.mapping numberedUnit))]⟩) = .ok outcome := by
  have read : readArguments ["check", "u"] = .ok { job := some ⟨.check, "u", false⟩ } :=
    readArguments_task rfl (Or.inl (by decide +kernel))
  have ended : run ["check", "u"]
      (FileTree.files ⟨[(["u"], .document (.mapping numberedUnit))]⟩) =
        .error (.unit (.fault .wrongShape)) := by
    simp only [run, read]
    rfl
  exact ⟨ended, by simp [ended]⟩

end FlowTyping.CommandLine
