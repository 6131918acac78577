import AuditAspects.Command

/-!
# The command line

A command line is a list of words: options of the program, the name of a command,
and its options and arguments.  Options of a command may stand anywhere among its
arguments, up to a double dash.  A command line that cannot be read ends with the
exit code two.
-/

namespace AuditAspects

/-- A command and how much of its log is kept. -/
structure Invocation where
  /-- Records of every level are kept, and not only those that matter. -/
  verbose : Bool
  /-- The command. -/
  command : Command

namespace CommandLine

/-! ## Options and arguments -/

/-- An option that a command takes. -/
structure OptionSpec where
  /-- The ways to write the option. -/
  spellings : List String
  /-- The option has a value. -/
  hasValue : Bool

/-- The words of a command line, sorted out. -/
structure Words where
  /-- The options in order, each by its first spelling and with its value. -/
  options : List (String × String) := []
  /-- The arguments in order. -/
  arguments : List String := []

/-- The option of a spelling. -/
def optionOf? (specs : List OptionSpec) (spelling : String) : Option OptionSpec :=
  specs.find? (·.spellings.contains spelling)

/-- The first spelling of an option. -/
def OptionSpec.name (spec : OptionSpec) : String := spec.spellings.headD ""

/-- A spelling and a value in one word. -/
def cutValue (word : String) : String × Option String :=
  match Text.cutFirst '=' word.toList with
  | some (spelling, value) => (String.ofList spelling, some (String.ofList value))
  | none => (word, none)

/-- The flags of a word that holds several one-letter ones. -/
def shortFlags? (specs : List OptionSpec) (letters : List Char) : Option (List (String × String)) :=
  letters.mapM fun c =>
    match optionOf? specs (String.ofList ['-', c]) with
    | some spec => if spec.hasValue then none else some (spec.name, "")
    | none => none

/-- What a word is. -/
inductive WordKind
  /-- An argument. -/
  | argument
  /-- The double dash, after which all words are arguments. -/
  | endOfOptions
  /-- Options that are complete. -/
  | complete (options : List (String × String))
  /-- An option whose value is the next word. -/
  | needsValue (name : String)
  /-- Nothing that can be read. -/
  | unknown

/-- What a word is, by the way it starts. -/
def wordKind (specs : List OptionSpec) (word : String) : WordKind :=
  match word.toList with
  | ['-', '-'] => .endOfOptions
  | '-' :: '-' :: _ =>
      let (spelling, value) := cutValue word
      match optionOf? specs spelling with
      | none => .unknown
      | some spec =>
          match spec.hasValue, value with
          | true, some value => .complete [(spec.name, value)]
          | true, none => .needsValue spec.name
          | false, some _ => .unknown
          | false, none => .complete [(spec.name, "")]
  | '-' :: c :: cs =>
      match shortFlags? specs (c :: cs) with
      | some flags => .complete flags
      | none => .unknown
  | _ => .argument

/-- Sorts out the words of a command. -/
def sortWords (specs : List OptionSpec) : List String → Words → Option Words
  | [], ws => some ws
  | word :: rest, ws =>
      match wordKind specs word with
      | .argument => sortWords specs rest { ws with arguments := ws.arguments ++ [word] }
      | .endOfOptions => some { ws with arguments := ws.arguments ++ rest }
      | .complete options => sortWords specs rest { ws with options := ws.options ++ options }
      | .needsValue name =>
          match rest with
          | [] => none
          | value :: rest =>
              sortWords specs rest { ws with options := ws.options ++ [(name, value)] }
      | .unknown => none

/-- The value of an option, the last one if it is given several times. -/
def Words.value? (ws : Words) (name : String) : Option String :=
  ws.options.reverse.lookup name

/-- An option is given. -/
def Words.has (ws : Words) (name : String) : Bool :=
  (ws.value? name).isSome

/-! ## Commands -/

/-- The option that shows more. -/
def verboseOption : OptionSpec := ⟨["--verbose", "-v"], false⟩

/-- The option that names the project. -/
def projectOption : OptionSpec := ⟨["--project"], true⟩

/-- The option that names the output directory. -/
def outputOption : OptionSpec := ⟨["--output"], true⟩

/-- The option that only lists what would be written. -/
def dryRunOption : OptionSpec := ⟨["--dry-run"], false⟩

/-- The option that names the directory of a new project. -/
def pathOption : OptionSpec := ⟨["--path"], true⟩

/-- The directory of the project, by default the current one. -/
def Words.project (ws : Words) : String :=
  (ws.value? projectOption.name).getD "."

/-- The command of a name and the words after it. -/
def commandOf? (name : String) (words : List String) : Option Command :=
  match name with
  | "init" => do
      let ws ← sortWords [pathOption] words {}
      match ws.arguments with
      | [name] => some (.init name ((ws.value? pathOption.name).getD "."))
      | _ => none
  | "generate" => do
      let ws ← sortWords [projectOption, outputOption, dryRunOption] words {}
      match ws.arguments with
      | [] => some (.generate ws.project (ws.value? outputOption.name) (ws.has dryRunOption.name))
      | _ => none
  | "show" => do
      let ws ← sortWords [projectOption] words {}
      match ws.arguments with
      | [entity] => some (.show entity ws.project)
      | _ => none
  | "list" => do
      let ws ← sortWords [projectOption, verboseOption] words {}
      match ws.arguments with
      | [] => some (.list ws.project (ws.has verboseOption.name))
      | _ => none
  | _ => none

/-- The invocation that a command line stands for. -/
def parse? (verbose : Bool) : List String → Option Invocation
  | [] => none
  | word :: rest =>
      match wordKind [verboseOption] word with
      | .argument => (commandOf? word rest).map (⟨verbose, ·⟩)
      | .endOfOptions =>
          match rest with
          | [] => none
          | name :: words => (commandOf? name words).map (⟨verbose, ·⟩)
      | .complete _ => parse? true rest
      | .needsValue _ => none
      | .unknown => none

/-! ## Running a command line -/

/-- The records that a command line keeps. -/
def keptRecords (verbose : Bool) (records : List Record) : List Record :=
  records.filter fun r => verbose || r.level ≠ .debug

/-- The report of a command line that cannot be read. -/
def misuse : Report := { exitCode := 2 }

/-- Runs a command line.  The log of the workspace is that of the command line, and all
output is encoded strictly. -/
def run (words : List String) (w : Workspace) : Workspace × Report :=
  match parse? false words with
  | none => ({ w with log := [] }, misuse)
  | some i =>
      let (w, report) := i.command.runOn .strict { w with log := [] }
      ({ w with log := keptRecords i.verbose w.log }, report.shown)

/-! ## Tests -/

example : (parse? false ["-v", "generate", "--dry-run", "--project=p"]).map
      (fun i => (i.verbose, i.command)) = some (true, .generate "p" none true) := by
  decide +kernel
example : (parse? false ["show", "A", "B"]).isNone = true := by decide +kernel
example : (parse? false ["show", "--project", "p", ""]).map Invocation.command
    = some (.show "" "p") := by decide +kernel

end CommandLine

end AuditAspects
