import AuditAspects.Contract

/-!
# Project modules

A project consists of a settings module and entity modules.  Their contents are
data here: a settings module binds names or fails, and an entity module runs its
items from top to bottom, each of which defines a class, brings one in from
outside the project, or fails.  A fault of an item ends its module: no module catches
faults, as one could that is not written as data.
-/

namespace AuditAspects

/-- Where a setting takes its value from. -/
inductive SettingSource
  /-- The module itself. -/
  | literal (v : Value)
  /-- A variable of the environment, or a text where that is not set. -/
  | variable (name default : String)

/-- A settings module. -/
inductive SettingsModule
  /-- It binds names. -/
  | bindings (entries : List (String × SettingSource))
  /-- It fails. -/
  | fails (kind : FaultKind) (text : String)

/-- The definition of a class in an entity module. -/
structure ClassSpec where
  /-- The name of the class. -/
  name : String
  /-- The class it derives from, by its name in the module; without one it
  derives from the base of all entities. -/
  base : Option String := none
  /-- The marker put on the class, if any. -/
  marker : Option Marker := none
  /-- What its body says about options. -/
  clause : OptionsClause := .absent
  /-- The bindings of its body, in order. -/
  body : Body := []

/-- An item of an entity module.  None catches what another fails with. -/
inductive ModuleItem
  /-- It defines a class. -/
  | define (spec : ClassSpec)
  /-- It fails. -/
  | fail (kind : FaultKind) (text : String)
  /-- It brings in a class from outside the project, perhaps by another name. -/
  | bring (name : String) (newName : Option String)

/-- What a file means to a project. -/
inductive FileMeaning
  /-- Nothing. -/
  | plain
  /-- It is a settings module. -/
  | settings (m : SettingsModule)
  /-- It is an entity module. -/
  | entities (items : List ModuleItem)

/-- A file: its text, and what it means to a project. -/
structure SourceFile where
  /-- The text of the file. -/
  text : String
  /-- What the file means to a project. -/
  meaning : FileMeaning := .plain

/-- The items of a file; a file that is no entity module has none. -/
def SourceFile.items (f : SourceFile) : List ModuleItem :=
  match f.meaning with
  | .entities items => items
  | _ => []

end AuditAspects
