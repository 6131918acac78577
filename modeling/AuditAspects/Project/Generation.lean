import AuditAspects.Contribution
import AuditAspects.Project.Scan

/-!
# Generating companion units

Generation renders the companion unit of every audited entity of a project, in the
order of the entities' names.  Writing renders all of them first and only then
writes the first file.  A file that is opened is emptied before its text is encoded, so a
text that cannot be leaves an empty file.
-/

namespace AuditAspects

/-- What the name of a generated file ends with. -/
def unitEnding : String := ".aj"

/-- The rendered units by their paths, in the order they were made. -/
abbrev Rendered := List (String × String)

namespace Session

/-! ## One entity -/

/-- The logical path of an entity.  An entity's own module comes before that of the
settings, and a module that is empty in any way is none. -/
def logicalPath (s : Session) (c : Contract) : Except Fault LogicalPath := do
  let own ← c.moduleName
  let module := if own.isEmpty then s.setting .moduleName else own
  return {
    path := (s.setting .logicalPath).plain
    module := if module.isEmpty then "" else module.plain }

/-- The contribution for an entity. -/
def contribution (c : Contract) : Step Session Contribution := do
  let s ← get
  let path ← Step.ofExcept (s.logicalPath c)
  let type ← Step.ofExcept c.type
  onLog (Contribution.forType type (.proper c.target) (s.store.attached c) path)

/-- The segments of a package. -/
def packageParts (package : String) : List String :=
  if package = "" then [] else (Text.segments '.' package.toList).map String.ofList

/-- The path of an aspect under a directory of sources. -/
def unitPathUnder (sourceRoot : String) (aspect : TypeName) : String :=
  "/".intercalate
    (sourceRoot :: packageParts aspect.package ++ [aspect.simpleName ++ unitEnding])

/-- The path of an aspect, relative to the output directory. -/
def unitPath (s : Session) (aspect : TypeName) : Except Fault String :=
  match s.setting .sourceRoot with
  | .text sourceRoot => .ok (unitPathUnder sourceRoot aspect)
  | v => .error (.partNotText 0 v.kindName)

/-- Renders the unit of an entity, which is known by a name. -/
def renderEntity (name : String) (c : Contract) : Step Session (String × String) := do
  let contribution ← contribution c
  let path ← Step.ofExcept ((← get).unitPath contribution.aspect)
  note .info ("Generated " ++ contribution.aspect.simpleName ++ " for " ++ name)
  return (path, contribution.unit.render)

/-! ## All entities -/

/-- Renders the units of several entities, put to those made before. -/
def renderAll : List (String × Contract) → Rendered → Step Session Rendered
  | [], made => return made
  | (name, c) :: rest, made => do
      let (path, text) ← renderEntity name c
      renderAll rest (Entries.put path text made)

/-- Entities in ascending order of their names. -/
def sortEntities (entities : List (String × Contract)) : List (String × Contract) :=
  sortBy (fun a b => textLe a.1 b.1) entities

/-- Renders every audited entity of the project.  The settings are loaded if they
are not there yet. -/
def generate : Step Session Rendered := do
  if (← get).settings.isNone then
    let _ ← loadSettings
  let entities ← scan
  renderAll (sortEntities entities) []

/-! ## Files -/

/-- Writes one file and makes the directories on the way to it.  The file is there, and
empty, before its text is encoded. -/
def writeFile (target : Location) (text : String) : Step Session Unit := do
  Step.refuse target.parent.fault?
  modify fun s => { s with tree := s.tree.makeDirs target.parent }
  Step.refuse target.fault?
  modify fun s => { s with tree := s.tree.write target ⟨"", .plain⟩ }
  Step.refuse (Fault.ofEncoding? .strict text)
  modify fun s => { s with tree := s.tree.write target ⟨text, .plain⟩ }
  note .info ("Wrote " ++ target.text)

/-- Writes rendered units under a directory, which gives their places. -/
def writeAll (base : Location) : Rendered → Step Session (List Location)
  | [] => return []
  | (path, text) :: rest => do
      let target := base.child path
      writeFile target text
      return target :: (← writeAll base rest)

/-- Renders every audited entity and writes the units under a directory, by default
that of the settings. -/
def write (output : Option Location) : Step Session (List Location) := do
  let rendered ← generate
  let base ←
    match output with
    | some base => pure base
    | none => Step.ofExcept (← get).outputDir
  writeAll base rendered

/-! ## Tests -/

example : unitPathUnder "src" ⟨"a.b.C_Audit", by decide⟩ = "src/a/b/C_Audit.aj" := by
  decide +kernel
example : unitPathUnder "" ⟨"C_Audit", by decide⟩ = "/C_Audit.aj" := by decide +kernel

end Session

end AuditAspects
