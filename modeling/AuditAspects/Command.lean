import AuditAspects.Console
import AuditAspects.Project.Generation
import AuditAspects.Project.Template

/-!
# Commands

The four commands on projects: `init` makes a project, `generate` writes the
companion units of one or says what it would write, `show` prints the unit of one
entity, and `list` prints the audited entities.  Each command works in a session of
its own.  A command that fails says why on standard error, with the exit code one.  Some
faults it does not catch, and they end it where they arise, with the same exit code.

What a command says goes to a standard output of some encoding, and it is a fault to say
what that cannot encode (`runOn`).  `run` is for an output that takes every text.
-/

namespace AuditAspects

/-- A command with its arguments. -/
inductive Command
  /-- Makes a project of a given name in a directory. -/
  | init (name path : String)
  /-- Writes the units of a project, or lists them. -/
  | generate (project : String) (output : Option String) (dryRun : Bool)
  /-- Prints the unit of one entity. -/
  | show (entity project : String)
  /-- Prints the audited entities. -/
  | list (project : String) (verbose : Bool)
deriving DecidableEq

namespace Command

/-! ## Saying lines -/

/-- A step that says lines, put to those said before.  A step that fails has said what
it said. -/
abbrev Saying := Step (List String) Unit

/-- Says lines, up to the first that an output cannot encode. -/
def say (stdout : Text.Encoding) : List String → Saying
  | [] => pure ()
  | line :: lines => do
      Step.refuse (Console.fault? stdout (line ++ "\n"))
      modify (· ++ [line])
      say stdout lines

/-- The report of what is said.  A fault ends the command where it arises. -/
def reportOf (said : Saying) : Report :=
  match said.run [] with
  | .ok () lines => .ofLines lines
  | .error f lines => .ended lines f

/-! ## Making a project -/

/-- Copies the template into a directory. -/
def copyTemplate (target : Location) : List (String × SourceFile) → FileTree → FileTree
  | [], tree => tree
  | (path, file) :: rest, tree =>
      let place := target.child path
      copyTemplate target rest ((tree.makeDirs place.parent).write place file)

/-- The lines that are said when a project has been made. -/
def madeLines (name : String) : List String :=
  Template.files.map (fun e => "  Created: " ++ e.1) ++
    ["", "[SUCCESS] Project '" ++ name ++ "' created successfully!", "", "Next steps:",
     "  cd " ++ name, "  # Edit entities in entities/", "  auditgen generate"]

/-- Makes a project where there is nothing yet. -/
def runInit (stdout : Text.Encoding) (name path : String) (w : Workspace) : Workspace × Report :=
  let target := (Location.ofText path).child name
  let opening := "Creating new auditgen project: " ++ name
  if target.fault?.isNone && w.tree.hasEntry target then
    (w, .failure ("Error: Directory '" ++ target.text ++ "' already exists!"))
  else
    match Console.fault? stdout (opening ++ "\n"), target.fault? with
    | some f, _ => (w, .ended [] f)
    | none, some f => (w, .ended [opening] f)
    | none, none =>
        ({ w with tree := copyTemplate target Template.files (w.tree.makeDirs target) },
          reportOf (say stdout (opening :: madeLines name)))

/-! ## Generating -/

/-- The report of a generation that failed, after it had said some lines. -/
def generationFailed (lines : List String) (f : Fault) : Report :=
  { Report.ofFault f ("[ERROR] Generation failed: " ++ f.message) with
    out := (Report.ofLines lines).out }

/-- The lines of a dry run. -/
def dryRunLines (rendered : Rendered) : List String :=
  rendered.map (fun e => "  Would write: " ++ e.1) ++
    ["[OK] " ++ toString rendered.length ++ " ITD file(s) would be generated"]

/-- The lines of a generation. -/
def writtenLines (written : List Location) : List String :=
  written.map (fun l => "  Created: " ++ l.text) ++
    ["[OK] Generated " ++ toString written.length ++ " ITD file(s)"]

/-- The place that an output option names; an empty one names none. -/
def outputPlace (output : Option String) : Option Location :=
  match output with
  | some path => if path = "" then none else some (.ofText path)
  | none => none

/-- Lists the units of a project.  A line that cannot be said is a fault of the
generation. -/
def runDryRun (stdout : Text.Encoding) (s : Session) : Session × Report :=
  match Session.generate.run s with
  | .error f s => (s, generationFailed [] f)
  | .ok rendered s =>
      match (say stdout (dryRunLines rendered)).run [] with
      | .ok () lines => (s, .ofLines lines)
      | .error f lines => (s, generationFailed lines f)

/-- Writes the units of a project. -/
def runGenerate (stdout : Text.Encoding) (output : Option String) (s : Session) :
    Session × Report :=
  match (Session.write (outputPlace output)).run s with
  | .ok written s => (s, reportOf (say stdout (writtenLines written)))
  | .error f s => (s, generationFailed [] f)

/-! ## Showing one entity -/

/-- The entities that a text names, by the name of the type or of the class. -/
def matching (entity : String) (entities : List (String × Contract)) : List (String × Contract) :=
  entities.filter fun e => e.1 = entity || e.2.name = entity

/-- The unit of the one entity that a text names, or what to say instead. -/
def findUnit (entity : String) : Step Session (Except String String) := do
  let _ ← Session.loadSettings
  let entities ← Session.scan
  match matching entity entities with
  | [] => return .error ("No audited entity named '" ++ entity ++ "'")
  | [(_, c)] => return .ok (← Session.contribution c).unit.render
  | _ => return .error ("'" ++ entity ++ "' is ambiguous; use the fully qualified name")

/-- The report of a source that is printed. -/
def printed (stdout : Text.Encoding) (source : String) : Report :=
  match Console.fault? stdout source with
  | some f => .ended [] f
  | none => { out := source }

/-- Prints the unit of one entity. -/
def runShow (stdout : Text.Encoding) (entity : String) (s : Session) : Session × Report :=
  match (findUnit entity).run s with
  | .ok (.ok source) s => (s, printed stdout source)
  | .ok (.error text) s => (s, .failure ("[ERROR] " ++ text))
  | .error f s => (s, .ofFault f ("[ERROR] " ++ f.message))

/-! ## Listing entities -/

/-- The line of one setting of an entity. -/
def settingLine (config : Config) (k : ConfigKey) : String :=
  "      " ++ k.name ++ ": " ++ (config.columnFor k).getD "(default)"

/-- The operation that gives the settings of a configuration. -/
def settingsOperation : String := "keys"

/-- The operation that gives the column of a setting. -/
def columnOperation : String := "column_for"

/-- The lines of the settings of an entity.  What is attached to it may be no
configuration; a dictionary has keys as a configuration has, but no columns. -/
def settingLines : Offered Config → Except Fault (List String)
  | .proper config => .ok (ConfigKey.all.map (settingLine config))
  | .foreign (.object []) => .ok []
  | .foreign (.object es) =>
      .error (.operationMissing (Value.object es).kindName columnOperation)
  | .foreign v => .error (.operationMissing v.kindName settingsOperation)

/-- The text of values that have to be texts, separated by commas. -/
def joinNames : (place : Nat) → List Value → Except Fault (List String)
  | _, [] => .ok []
  | place, .text s :: vs => (joinNames (place + 1) vs).map (s :: ·)
  | place, v :: _ => .error (.partNotText place v.kindName)

/-- The line of the methods that an entity declares, if it declares any. -/
def methodLines (c : Contract) : Except Fault (List String) := do
  let methods ← c.sortedMethods
  if methods.isEmpty then
    return []
  else
    return ["      Declared methods: " ++ ", ".intercalate (← joinNames 0 methods)]

/-- Says what there is to say of one entity.  Its settings are said even if its methods
cannot be. -/
def sayEntity (stdout : Text.Encoding) (verbose : Bool) (s : Session) (name : String)
    (c : Contract) : Saying := do
  say stdout ["  - " ++ name]
  if verbose then
    say stdout (← Step.ofExcept (settingLines (s.store.attached c)))
    say stdout (← Step.ofExcept (methodLines c))

/-- Says what there is to say of several entities. -/
def sayEntities (stdout : Text.Encoding) (verbose : Bool) (s : Session) :
    List (String × Contract) → Saying
  | [] => pure ()
  | (name, c) :: rest => do
      sayEntity stdout verbose s name c
      sayEntities stdout verbose s rest

/-- The lines above the entities. -/
def listHeader (n : Nat) : List String :=
  ["AUDITED ENTITIES (" ++ toString n ++ " total)", String.ofList (List.replicate 60 '-')]

/-- Says what there is to say of all entities. -/
def sayList (stdout : Text.Encoding) (verbose : Bool) (s : Session) :
    List (String × Contract) → Saying
  | [] => say stdout (listHeader 0 ++ ["  No audited entities found"])
  | entities => do
      say stdout (listHeader entities.length)
      sayEntities stdout verbose s (Session.sortEntities entities)

/-- Prints the audited entities.  A fault in the details of an entity ends the command
where it arises. -/
def runList (stdout : Text.Encoding) (verbose : Bool) (s : Session) : Session × Report :=
  match Session.scan.run s with
  | .error f s => (s, .ofFault f ("[ERROR] Failed to import: " ++ f.message))
  | .ok entities s => (s, reportOf (sayList stdout verbose s entities))

/-! ## Running a command -/

/-- Runs something in a session of its own on the project in a directory. -/
def inProject (project : String) (run : Session → Session × Report) (w : Workspace) :
    Workspace × Report :=
  let (s, report) := run (.start w (.ofText project))
  (s.toWorkspace, report)

/-- Runs a command that says what it says on a standard output of some encoding. -/
def runOn (stdout : Text.Encoding) : Command → Workspace → Workspace × Report
  | .init name path => runInit stdout name path
  | .generate project _ true => inProject project (runDryRun stdout)
  | .generate project output false => inProject project (runGenerate stdout output)
  | .show entity project => inProject project (runShow stdout entity)
  | .list project verbose => inProject project (runList stdout verbose)

/-- Runs a command, on an output that takes every text.  On another output it does the same if
what is said can be encoded there. -/
def run : Command → Workspace → Workspace × Report := runOn .lenient

end Command

end AuditAspects
