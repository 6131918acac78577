import AuditAspects.CompanionUnit
import AuditAspects.NameTable

/-!
# The source of a companion unit

A unit is written as lines, each ended by a line feed: a banner, the package, the
imports, and the members inside the aspect.  The names of types come from a table
that is put together again from the aspect, the governor and the imports, so the
source depends on nothing but the unit.
-/

namespace AuditAspects

/-! ## Annotations -/

/-- A character inside a text literal: quote and backslash are escaped. -/
def escapeChar (c : Char) : List Char :=
  if c = '\\' || c = '"' then ['\\', c] else [c]

/-- The inside of a text literal. -/
def escapeText (s : String) : String :=
  String.ofList (s.toList.flatMap escapeChar)

/-- A text literal. -/
def textLiteral (s : String) : String :=
  "\"" ++ escapeText s ++ "\""

/-- The source of an attribute value. -/
def AttributeValue.render (names : NameTable) : AttributeValue → String
  | .text s => textLiteral s
  | .constant type name => names.written type ++ "." ++ name
  | .classOf type => names.written type ++ ".class"

/-- The source of an attribute with its name. -/
def Attribute.render (names : NameTable) (x : Attribute) : String :=
  x.name ++ " = " ++ x.value.render names

/-- The name of the attribute that is written without its name when it is the
only one. -/
def soleAttribute : String := "value"

/-- The source of the attributes of an annotation. -/
def renderAttributes (names : NameTable) : List Attribute → String
  | [] => ""
  | [x] =>
      "(" ++ (if x.name = soleAttribute then x.value.render names else x.render names) ++ ")"
  | xs => "(" ++ ", ".intercalate (xs.map (·.render names)) ++ ")"

/-- The source of an annotation. -/
def Annotation.render (names : NameTable) (a : Annotation) : String :=
  "@" ++ names.written a.tag.type ++ renderAttributes names a.attributes

/-! ## Members -/

/-- One step of indentation. -/
def indent : String := "    "

/-- The lines of an annotation on the governor. -/
def governorAnnotationLines (names : NameTable) (governor : String) (a : Annotation) :
    List String :=
  [indent ++ "declare @type: " ++ governor ++ ": " ++ a.render names ++ ";"]

/-- The lines of a field. -/
def Field.lines (names : NameTable) (governor : String) (f : Field) : List String :=
  f.annotations.map (fun a => indent ++ a.render names) ++
    [indent ++ f.modifiers.keywords ++ " " ++ names.written f.type ++ " " ++ governor ++ "." ++
      f.name ++ ";"]

/-- The lines of a method. -/
def Method.lines (names : NameTable) (governor : String) (m : Method) : List String :=
  (indent ++ m.modifiers.keywords ++ " " ++ names.written m.type ++ " " ++ governor ++ "." ++
      m.name ++ "() \x7b") ::
    m.body.map (fun line => indent ++ indent ++ line) ++ [indent ++ "\x7d"]

/-! ## Units -/

namespace CompanionUnit

/-- The first lines of every unit. -/
def banner : List String :=
  ["// WARNING: DO NOT EDIT THIS FILE. THIS FILE IS MANAGED BY AUDITGEN.",
   "// You may push code into the target .java compilation unit if you wish to edit any member(s).",
   ""]

/-- The lines that name a package; the default package has none. -/
def packageLines (package : String) : List String :=
  if package = "" then [] else ["package " ++ package ++ ";", ""]

/-- The lines of the imports. -/
def importLines (imports : List TypeName) : List String :=
  if imports = [] then [] else imports.map (fun t => "import " ++ t.name ++ ";") ++ [""]

/-- The table of the names that the source uses. -/
def names (u : CompanionUnit) : NameTable :=
  (NameTable.reserve ⟨u.aspect.package, []⟩ [u.aspect, u.governor]).addImports u.imports

/-- The lines of the members, each with an empty line before it. -/
def memberLines (u : CompanionUnit) : List String :=
  let governor := u.names.written u.governor
  u.annotations.flatMap (fun a => "" :: governorAnnotationLines u.names governor a) ++
    u.fields.flatMap (fun f => "" :: f.lines u.names governor) ++
    u.methods.flatMap (fun m => "" :: m.lines u.names governor)

/-- The lines of a unit. -/
def lines (u : CompanionUnit) : List String :=
  banner ++ packageLines u.aspect.package ++ importLines u.names.imports ++
    ["privileged aspect " ++ u.aspect.simpleName ++ " \x7b"] ++ u.memberLines ++ ["", "\x7d"]

/-- The source of a unit. -/
def render (u : CompanionUnit) : String :=
  String.join (u.lines.map (· ++ "\n"))

end CompanionUnit

/-! ## Tests -/

example : textLiteral "a\"b\\" = "\"a\\\"b\\\\\"" := by decide +kernel
example : Annotation.render (NameTable.claimAll ⟨"", []⟩ [.temporal])
      ⟨.temporal, [⟨"value", .constant .temporalType "TIMESTAMP"⟩]⟩
    = "@Temporal(javax.persistence.TemporalType.TIMESTAMP)" := by decide +kernel

end AuditAspects
