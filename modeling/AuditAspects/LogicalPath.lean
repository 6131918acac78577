import AuditAspects.Text.Split

/-!
# Logical paths

A logical path names a source tree, possibly inside a module of the project.  It
is written as the path alone, or as the module, a colon and the path.
-/

namespace AuditAspects

/-- A source tree of a project. -/
structure LogicalPath where
  /-- The source tree. -/
  path : String := "SRC_MAIN_JAVA"
  /-- The module it belongs to, if the project has several. -/
  module : String := ""
deriving DecidableEq

namespace LogicalPath

/-- What stands between a module and a path. -/
def separator : Char := ':'

/-- The text of a logical path. -/
def name (p : LogicalPath) : String :=
  if p.module = "" then p.path
  else p.module ++ String.singleton separator ++ p.path

/-- The logical path of a text, cut at its first separator. -/
def ofName (s : String) : LogicalPath :=
  match Text.cutFirst separator s.toList with
  | some (module, path) => ⟨String.ofList path, String.ofList module⟩
  | none => ⟨s, ""⟩

/-! ## Tests -/

example : (ofName "core:SRC") = ⟨"SRC", "core"⟩ := by decide +kernel
example : (ofName ":SRC").name = "SRC" := by decide +kernel

end LogicalPath

end AuditAspects
