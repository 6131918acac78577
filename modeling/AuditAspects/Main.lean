import AuditAspects.CommandLine
import AuditAspects.Project.Reader

/-!
# The program

Reads the part of the file system that a command looks at, runs the command, and
writes the files that it made.
-/

namespace AuditAspects.Program

/-- The text of a file, if it can be read. -/
def readText? (path : String) : IO (Option String) := do
  try
    return some (← IO.FS.readFile path)
  catch _ =>
    return none

/-- The names in a directory, if it is one. -/
def namesIn? (path : String) : IO (Option (List String)) := do
  try
    let entries ← ((← IO.currentDir) / path).readDir
    return some (entries.toList.map fun e => e.fileName)
  catch _ =>
    return none

/-- A tree with a directory, if it is there. -/
def loadDir (dir : Location) (tree : FileTree) : IO FileTree := do
  match ← namesIn? dir.text with
  | some _ => return tree.makeDirs dir
  | none => return tree

/-- A tree with a file, if it is there. -/
def loadFile (place : Location) (meaning : String → FileMeaning) (tree : FileTree) :
    IO FileTree := do
  match ← readText? place.text with
  | some text => return tree.write place ⟨text, meaning text⟩
  | none => return tree

/-- The files of a project. -/
def loadProject (root : Location) : IO FileTree := do
  let settings := root.child "config/settings.py"
  let entities := root.child "entities"
  let mut tree ← loadFile settings (fun s => .settings (.ofText s)) {}
  tree ← loadDir entities tree
  for name in (← namesIn? entities.text).getD [] do
    tree ← loadFile (entities.child name) (fun s => .entities (moduleItemsOfText s)) tree
  return tree

/-- The files that a command looks at. -/
def load : Command → IO FileTree
  | .init name path =>
      let target := (Location.ofText path).child name
      loadDir target {} >>= loadFile target fun _ => .plain
  | .generate project _ _ => loadProject (.ofText project)
  | .show _ project => loadProject (.ofText project)
  | .list project _ => loadProject (.ofText project)

/-- The variables of the environment that stand in for settings. -/
def environment : IO (List (String × String)) :=
  [Setting.sourceRoot, .outputDir, .logicalPath, .moduleName].filterMapM fun x => do
    return (← IO.getEnv x.variableName).map fun value => (x.variableName, value)

/-- Writes the files of a tree that differ from those of another. -/
def save (before after : FileTree) : IO Unit := do
  for (place, file) in after.files do
    if (before.read? place).map (fun f => f.text) ≠ some file.text then
      IO.FS.createDirAll place.parent.text
      IO.FS.writeFile place.text file.text

/-- The name of a level. -/
def levelName : Level → String
  | .debug => "DEBUG"
  | .info => "INFO"
  | .warning => "WARNING"

end AuditAspects.Program

open AuditAspects in
/-- Runs a command line in the current directory. -/
def main (words : List String) : IO UInt32 := do
  let tree ←
    match CommandLine.parse? false words with
    | some i => Program.load i.command
    | none => pure {}
  let environment ← Program.environment
  let (w, report) := CommandLine.run words { tree, environment }
  Program.save tree w.tree
  for r in w.log do
    IO.eprintln ("[" ++ Program.levelName r.level ++ "] " ++ Console.escaped r.text)
  IO.print report.out
  IO.eprint report.err
  match report.escaped with
  | some f => IO.eprintln (Console.escaped f.message)
  | none => pure ()
  return report.exitCode.toUInt32
