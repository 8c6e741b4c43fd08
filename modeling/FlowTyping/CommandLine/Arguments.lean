import FlowTyping.Text.Digit

/-!
Reading the arguments of a run. Each argument is first sorted into options, words and the
separator behind which everything is a word. A long option may be cut short as long as one
option only starts that way, and takes a value behind an equals sign. The first word names
the command, and all arguments behind it are read by the command's own options.
-/

namespace FlowTyping.CommandLine

/-- What an option asks for. -/
inductive Flag where
  | help
  | verbose
  | config
  | json
  deriving DecidableEq, Repr

/-- The spellings of options. -/
abbrev Options := List (String × Flag)

def generalOptions : Options :=
  [("-h", .help), ("--help", .help), ("--verbose", .verbose), ("--config", .config)]

/-- What a run is asked to do with a unit. -/
inductive Task where
  | check
  | signature
  deriving DecidableEq, Repr

def Task.ofWord? : String → Option Task
  | "check" => some .check
  | "signature" => some .signature
  | _ => none

def Task.options : Task → Options
  | .check => [("-h", .help), ("--help", .help)]
  | .signature => [("-h", .help), ("--help", .help), ("--json", .json)]

/-- How the reading of arguments ends a run. -/
inductive Ending where
  | help
  | misuse
  deriving DecidableEq, Repr

def Ending.exitCode : Ending → Nat
  | .help => 0
  | .misuse => 2

/-- What is written together with an option. -/
inductive Attached where
  | nothing
  /-- What stands behind the equals sign of an option with two minus signs. -/
  | behindEquals (value : String)
  /-- What stands behind a single minus sign and a letter, without an equals sign between. -/
  | runOn (rest : String)
  deriving DecidableEq, Repr

inductive Argument where
  | word (text : String)
  | separator
  | option (flag : Flag) (attached : Attached) (text : String)
  | unknown (text : String)
  deriving DecidableEq, Repr

/-- An argument as it was written. -/
def Argument.text : Argument → String
  | .word text => text
  | .separator => "--"
  | .option _ _ text => text
  | .unknown text => text

/-- The text before the first equals sign, and what stands behind it. -/
def cutAtEquals (text : String) : String × Attached :=
  let before := text.toList.takeWhile (· != '=')
  match text.toList.drop before.length with
  | _ :: after => (String.ofList before, .behindEquals (String.ofList after))
  | [] => (text, .nothing)

/-- Whether a text is a minus sign with a number behind it. -/
def isNegativeNumber (text : String) : Bool :=
  match text.toList with
  | '-' :: rest =>
    let number := if rest.getLast? = some '\n' then rest.dropLast else rest
    let whole := number.takeWhile Text.isDigit
    match number.drop whole.length with
    | [] => !whole.isEmpty
    | '.' :: places => !places.isEmpty && places.all Text.isDigit
    | _ => false
  | _ => false

/-- The options that a text with two minus signs cuts short, or that a text with one runs
together with more. -/
def candidates (options : Options) (text : String) : List (Flag × Attached) :=
  if text.startsWith "--" then
    let (start, attached) := cutAtEquals text
    (options.filter (fun option => option.1.startsWith start)).map
      (fun option => (option.2, attached))
  else
    let short := String.ofList (text.toList.take 2)
    let rest := String.ofList (text.toList.drop 2)
    options.filterMap (fun option =>
      if option.1 = short then some (option.2, .runOn rest)
      else if option.1.startsWith text then some (option.2, .nothing)
      else none)

/-- The option that a text spells out in full, alone or with more behind an equals sign. -/
def spelledOut? (options : Options) (text : String) : Option (Flag × Attached) :=
  match options.lookup text with
  | some flag => some (flag, .nothing)
  | none =>
    match cutAtEquals text with
    | (start, .behindEquals value) =>
      let attached := if start.startsWith "--" then .behindEquals value else .runOn value
      (options.lookup start).map (fun flag => (flag, attached))
    | _ => none

/-- Sorts an argument. A text that could be several options is a misuse; one that could be
none is a word if it is a negative number or holds a blank. -/
def sortArgument (options : Options) (text : String) : Except Ending Argument :=
  if !text.startsWith "-" || text = "-" then .ok (.word text)
  else
    match spelledOut? options text with
    | some (flag, attached) => .ok (.option flag attached text)
    | none =>
      match candidates options text with
      | [(flag, attached)] => .ok (.option flag attached text)
      | [] =>
        if isNegativeNumber text || text.toList.contains ' ' then .ok (.word text)
        else .ok (.unknown text)
      | _ => .error .misuse

theorem text_of_sortArgument {options : Options} {text : String} {argument : Argument}
    (sorted : sortArgument options text = .ok argument) : argument.text = text := by
  unfold sortArgument at sorted
  split at sorted
  · cases sorted
    rfl
  · split at sorted
    · cases sorted
      rfl
    · split at sorted
      · cases sorted
        rfl
      · split at sorted <;> cases sorted <;> rfl
      · cases sorted

/-- Sorts arguments; behind the separator all of them are words. -/
def sortArguments (options : Options) : List String → Except Ending (List Argument)
  | [] => .ok []
  | text :: rest =>
    if text = "--" then .ok (.separator :: rest.map Argument.word)
    else do
      let first ← sortArgument options text
      let others ← sortArguments options rest
      pure (first :: others)

theorem texts_of_sortArguments {options : Options} {texts : List String} {arguments : List Argument}
    (sorted : sortArguments options texts = .ok arguments) :
    arguments.map Argument.text = texts := by
  induction texts generalizing arguments with
  | nil =>
    cases sorted
    rfl
  | cons text rest ih =>
    unfold sortArguments at sorted
    split at sorted
    · rename_i separates
      cases sorted
      subst separates
      have words : rest.map (Argument.text ∘ Argument.word) = rest := by
        exact List.map_id'' (fun _ => rfl) rest
      simp [Argument.text, words]
    · cases first : sortArgument options text with
      | error ending => simp [first, bind, Except.bind] at sorted
      | ok argument =>
        cases others : sortArguments options rest with
        | error ending => simp [first, others, bind, Except.bind] at sorted
        | ok found =>
          simp [first, others, bind, Except.bind, pure, Except.pure] at sorted
          subst sorted
          simp [text_of_sortArgument first, ih others]

/-- Whether what is written together with a flag that needs no value is a misuse. Behind a
single minus sign more such flags may follow, and nothing else. -/
def Attached.isMisuse (options : Options) : Attached → Bool
  | .nothing => false
  | .behindEquals _ => true
  | .runOn rest =>
    rest.isEmpty || rest.toList.any (fun c => (options.lookup ("-" ++ c.toString)).isNone)

/-- What a task is to be done with. -/
structure TaskArguments where
  unit : Option String := none
  json : Bool := false
  /-- Whether there was an argument without a place. -/
  surplus : Bool := false

/-- Notes a word: the first one is the unit, a further one has no place. -/
def TaskArguments.addWord (arguments : TaskArguments) (text : String) : TaskArguments :=
  match arguments.unit with
  | none => { arguments with unit := some text }
  | some _ => { arguments with surplus := true }

/-- Reads the arguments of a task. The separator goes with the unit next to it. -/
def readTask (options : Options) : List Argument → TaskArguments → Except Ending TaskArguments
  | [], arguments => .ok arguments
  | .option flag attached _ :: rest, arguments =>
    if attached.isMisuse options then .error .misuse
    else
      match flag with
      | .help => .error .help
      | .json => readTask options rest { arguments with json := true }
      | _ => readTask options rest arguments
  | .unknown _ :: rest, arguments => readTask options rest { arguments with surplus := true }
  | .separator :: .word text :: rest, arguments =>
    if arguments.unit.isNone then readTask options rest (arguments.addWord text)
    else readTask options rest { arguments with surplus := true }
  | .word text :: .separator :: rest, arguments =>
    if arguments.unit.isNone then readTask options rest (arguments.addWord text)
    else readTask options rest { arguments with surplus := true }
  | .separator :: rest, arguments => readTask options rest { arguments with surplus := true }
  | .word text :: rest, arguments => readTask options rest (arguments.addWord text)

structure Job where
  task : Task
  unit : String
  json : Bool
  deriving DecidableEq

structure Request where
  verbose : Bool := false
  config : Option String := none
  job : Option Job := none
  deriving DecidableEq

def readJob (name : String) (texts : List String) : Except Ending Job :=
  match Task.ofWord? name with
  | none => .error .misuse
  | some task => do
    let arguments ← readTask task.options (← sortArguments task.options texts) {}
    match arguments.unit with
    | some unit =>
      if arguments.surplus then .error .misuse else pure ⟨task, unit, arguments.json⟩
    | none => .error .misuse

/-- Reads the arguments in front of the task; `surplus` says whether one had no place. A
separator in the place of a value counts as none. -/
def readGeneral : List Argument → Bool → Request → Except Ending Request
  | [], surplus, request => if surplus then .error .misuse else .ok request
  | .separator :: _, _, _ => .error .misuse
  | .unknown _ :: rest, _, request => readGeneral rest true request
  | .option .config (.behindEquals value) _ :: rest, surplus, request =>
    readGeneral rest surplus { request with config := if value = "--" then none else some value }
  | .option .config _ _ :: .word value :: rest, surplus, request =>
    readGeneral rest surplus { request with config := some value }
  | .option .config _ _ :: _, _, _ => .error .misuse
  | .option flag attached _ :: rest, surplus, request =>
    if attached.isMisuse generalOptions then .error .misuse
    else
      match flag with
      | .help => .error .help
      | .verbose => readGeneral rest surplus { request with verbose := true }
      | _ => readGeneral rest surplus request
  | .word name :: rest, surplus, request => do
    let job ← readJob name (rest.map Argument.text)
    if surplus then .error .misuse else pure { request with job := some job }

def readArguments (texts : List String) : Except Ending Request := do
  readGeneral (← sortArguments generalOptions texts) false {}

/-- A text that does not start as an option does, or is a lone minus sign, is a word. -/
theorem sortArguments_word {options : Options} {text : String} {rest : List String}
    {others : List Argument} (plain : text.startsWith "-" = false ∨ text = "-")
    (sorted : sortArguments options rest = .ok others) :
    sortArguments options (text :: rest) = .ok (.word text :: others) := by
  have proper : text ≠ "--" := by
    intro same
    subst same
    rcases plain with other | minus
    · exact absurd other (by decide +kernel)
    · exact absurd minus (by decide)
  have word : sortArgument options text = .ok (.word text) := by
    unfold sortArgument
    rw [if_pos]
    rcases plain with other | minus
    · simp [other]
    · simp [minus]
  rw [sortArguments, if_neg proper, word, sorted]
  rfl

theorem readArguments_task {name unit : String} {task : Task}
    (named : Task.ofWord? name = some task) (plain : unit.startsWith "-" = false ∨ unit = "-") :
    readArguments [name, unit] = .ok { job := some ⟨task, unit, false⟩ } := by
  have word : name.startsWith "-" = false := by
    unfold Task.ofWord? at named
    split at named
    · decide +kernel
    · decide +kernel
    · cases named
  have behind : ∀ options, sortArguments options [unit] = .ok [.word unit] :=
    fun _ => sortArguments_word plain rfl
  have job : readJob name [unit] = .ok ⟨task, unit, false⟩ := by
    simp only [readJob, named, behind]
    rfl
  have sorted := sortArguments_word (Or.inl word) (behind generalOptions)
  simp only [readArguments, sorted, bind, Except.bind, readGeneral, List.map, Argument.text, job]
  rfl

end FlowTyping.CommandLine
