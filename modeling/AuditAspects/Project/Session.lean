import AuditAspects.FileTree
import AuditAspects.Log
import AuditAspects.Registry

/-!
# Project sessions

A session is work on one project: the files, the environment, the registry, the
log, and the settings once they are loaded.  A setting comes from the settings
module, or else from the environment, or else it has a default value.  Settings
may be values of any kind, and it is only where a text is needed that another kind
is refused.
-/

namespace AuditAspects

/-- Everything that commands on projects work with. -/
structure Workspace where
  /-- The files, apart from those that modules have their code kept in. -/
  tree : FileTree := {}
  /-- The registry of audited entities. -/
  store : Store := {}
  /-- The classes outside of any project, by their names. -/
  shared : List (String × Contract) := []
  /-- The variables of the environment that are set. -/
  environment : List (String × String) := []
  /-- The log so far. -/
  log : List Record := []
  /-- A module that is loaded has its code kept in a file beside it. -/
  keepsCode : Bool := false
  /-- The modules that have had their code kept, in this order. -/
  kept : List Location := []

/-- Work on one project. -/
structure Session extends Workspace where
  /-- The directory of the project. -/
  root : Location
  /-- The names that the settings module binds, once it is loaded. -/
  settings : Option (List (String × Value)) := none

/-- The settings of a project. -/
inductive Setting
  /-- The directory of the sources, inside the output directory. -/
  | sourceRoot
  /-- The output directory. -/
  | outputDir
  /-- The source tree of identifiers. -/
  | logicalPath
  /-- The project module of entities that name none. -/
  | moduleName
deriving DecidableEq

namespace Setting

/-- The name of a setting in the settings module. -/
def name : Setting → String
  | sourceRoot => "SOURCE_ROOT"
  | outputDir => "OUTPUT_DIR"
  | logicalPath => "LOGICAL_PATH"
  | moduleName => "MODULE"

/-- The variable of the environment that stands in for a setting. -/
def variableName : Setting → String
  | sourceRoot => "AUDITGEN_SOURCE_ROOT"
  | outputDir => "AUDITGEN_OUTPUT_DIR"
  | logicalPath => "AUDITGEN_LOGICAL_PATH"
  | moduleName => "AUDITGEN_MODULE"

/-- The value of a setting that is given nowhere. -/
def defaultText : Setting → String
  | sourceRoot => "src/main/java"
  | outputDir => "."
  | logicalPath => "SRC_MAIN_JAVA"
  | moduleName => ""

end Setting

/-- The text of the path that a value stands for. -/
def pathText : Value → Except Fault String
  | .text s => .ok s
  | .path s => .ok (Location.ofText s).text
  | .other _ (some s) => .ok s
  | .other "bytes" none => .error .pathOfOctets
  | v => .error (.pathNotText v.kindName)

namespace Session

/-- Starts work on the project in a directory. -/
def start (w : Workspace) (root : Location) : Session :=
  { w with root := root }

/-! ## Steps of a session -/

/-- A step on the registry. -/
def onStore {α : Type} (x : Step Store α) : Step Session α := fun s =>
  match x.run s.store with
  | .ok a store => .ok a { s with store := store }
  | .error f store => .error f { s with store := store }

/-- A step on the log. -/
def onLog {α : Type} (x : Logged α) : Step Session α := fun s =>
  match x.run s.log with
  | .ok a log => .ok a { s with log := log }
  | .error f log => .error f { s with log := log }

/-- Keeps the code of a module, if code is kept and there is a file to load. -/
def keepCode (module : Location) : Step Session Unit :=
  modify fun s =>
    { s with
      kept := if s.keepsCode && (s.tree.read? module).isSome then s.kept ++ [module] else s.kept }

/-- Adds a record to the log. -/
def note (level : Level) (text : String) : Step Session Unit :=
  onLog (Logged.note level text)

section Lifted

variable {α : Type} (x : Step Store α) (y : Logged α) (level : Level) (text : String) (s : Session)

@[simp] theorem result_onStore : (onStore x).result s = x.result s.store := by
  simp only [Step.result, onStore, EStateM.run]
  cases x s.store <;> rfl

@[simp] theorem after_onStore : (onStore x).after s = { s with store := x.after s.store } := by
  simp only [Step.after, onStore, EStateM.run]
  cases x s.store <;> rfl

@[simp] theorem result_onLog : (onLog y).result s = y.result s.log := by
  simp only [Step.result, onLog, EStateM.run]
  cases y s.log <;> rfl

@[simp] theorem after_onLog : (onLog y).after s = { s with log := y.after s.log } := by
  simp only [Step.after, onLog, EStateM.run]
  cases y s.log <;> rfl

@[simp] theorem result_note : (note level text).result s = .ok () := rfl

@[simp] theorem after_note :
    (note level text).after s = { s with log := s.log ++ [⟨level, text⟩] } := rfl

end Lifted

/-! ## Settings -/

/-- The place of the settings module. -/
def settingsFile (s : Session) : Location :=
  (s.root.child "config").child "settings.py"

/-- The place of the entity modules. -/
def entitiesDir (s : Session) : Location :=
  s.root.child "entities"

/-- The value of a setting's source. -/
def evaluate (environment : List (String × String)) : SettingSource → Value
  | .literal v => v
  | .variable name default => .text ((environment.lookup name).getD default)

/-- The names that a settings module binds. -/
def readSettings (environment : List (String × String)) :
    SettingsModule → Except Fault (List (String × Value))
  | .bindings entries => .ok (entries.map fun e => (e.1, evaluate environment e.2))
  | .fails kind text => .error (.settingsFailed (Fault.raised kind text).message)

/-- The settings module, if something is in its place.  A file that is no settings module
binds nothing, and a directory cannot be read. -/
def settingsModule? (s : Session) : Option SettingsModule :=
  if s.tree.hasEntry s.settingsFile then
    match s.tree.read? s.settingsFile with
    | none => some (.fails .runtime (s.tree.directoryText s.settingsFile))
    | some file =>
        match file.meaning with
        | .settings m => some m
        | _ => some (.bindings [])
  else none

/-- Loads the settings module, if there is one, and says whether there is.  A
module that fails leaves the settings as they were. -/
def loadSettings : Step Session Bool := do
  let s ← get
  match s.settingsModule? with
  | none =>
      note .info ("No settings found at " ++ s.settingsFile.text ++ ", using defaults")
      modify fun s => { s with settings := none }
      return false
  | some m =>
      keepCode s.settingsFile
      let bound ← Step.ofExcept (readSettings s.environment m)
      modify fun s => { s with settings := some bound }
      return true

/-- The value of a setting as the session sees it now.  Of several bindings of its name the
last one counts. -/
def setting (s : Session) (x : Setting) : Value :=
  match s.settings.bind (·.reverse.lookup x.name) with
  | some v => v
  | none => .text ((s.environment.lookup x.variableName).getD x.defaultText)

/-- The output directory, which a relative setting puts inside the project. -/
def outputDir (s : Session) : Except Fault Location :=
  (pathText (s.setting .outputDir)).map s.root.child

end Session

end AuditAspects
