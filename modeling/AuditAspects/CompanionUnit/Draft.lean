import AuditAspects.CompanionUnit
import AuditAspects.NameTable
import AuditAspects.Step

/-!
# Drafts of companion units

A draft takes in members one by one, and keeps with them the table of the simple
names that they claim.  A member whose name is taken is refused and leaves the
draft as it was.  A bundle is merged member by member: if one is refused, those
before it stay.  Every history of edits is a list of `Edit`s, whose effect is
`Draft.applyAll`.
-/

namespace AuditAspects

/-- A companion unit in the making. -/
structure Draft where
  /-- The identifier of the contribution that the unit comes from. -/
  declaredBy : String
  /-- The unit itself, as a type. -/
  aspect : TypeName
  /-- The entity that the members are introduced into. -/
  governor : TypeName
  /-- The fields so far. -/
  fields : List Field
  /-- The methods so far. -/
  methods : List Method
  /-- The annotations so far. -/
  annotations : List Annotation
  /-- The owners of simple names so far. -/
  names : NameTable
deriving DecidableEq

namespace Draft

/-- The draft without members.  The aspect and its governor appear in the unit by
their simple names, so they claim them first. -/
def start (declaredBy : String) (aspect governor : TypeName) : Draft where
  declaredBy := declaredBy
  aspect := aspect
  governor := governor
  fields := []
  methods := []
  annotations := []
  names := NameTable.reserve ⟨aspect.package, []⟩ [aspect, governor]

/-! ## Taking in one member -/

/-- Adds a field whose name is free; the given types claim their names. -/
def addFieldClaiming (f : Field) (types : List TypeName) : Step Draft Unit := do
  let d ← get
  if d.fields.any (·.name = f.name) then
    throw (.fieldDeclared f.name d.aspect)
  set { d with fields := d.fields ++ [f], names := d.names.addImports types }

/-- Adds a method whose name is free; the given types claim their names. -/
def addMethodClaiming (m : Method) (types : List TypeName) : Step Draft Unit := do
  let d ← get
  if d.methods.any (·.name = m.name) then
    throw (.methodDeclared m.name d.aspect)
  set { d with methods := d.methods ++ [m], names := d.names.addImports types }

/-- Adds an annotation; the given types claim their names. -/
def addAnnotationClaiming (a : Annotation) (types : List TypeName) : Step Draft Unit :=
  modify fun d =>
    { d with annotations := d.annotations ++ [a], names := d.names.addImports types }

/-- Adds a field whose name is free. -/
def addField (f : Field) : Step Draft Unit := addFieldClaiming f f.referencedTypes

/-- Adds a method whose name is free; a getter that is left out changes
nothing. -/
def addMethod : Option Method → Step Draft Unit
  | none => pure ()
  | some m => addMethodClaiming m m.referencedTypes

/-- Adds an annotation. -/
def addAnnotation (a : Annotation) : Step Draft Unit :=
  addAnnotationClaiming a a.referencedTypes

/-! ## Taking in a bundle -/

/-- Adds several fields, up to the first that is refused. -/
def addFields : List Field → Step Draft Unit
  | [] => pure ()
  | f :: fs => do
      addField f
      addFields fs

/-- Adds several methods, up to the first that is refused. -/
def addMethods : List Method → Step Draft Unit
  | [] => pure ()
  | m :: ms => do
      addMethod (some m)
      addMethods ms

/-- Adds the members of a bundle, up to the first that is refused. -/
def merge (b : Bundle) : Step Draft Unit := do
  addFields b.fields
  addMethods b.methods
  addAnnotation b.listener

/-! ## Histories -/

/-- A change of a draft. -/
inductive Edit
  /-- One field. -/
  | field (f : Field)
  /-- One method, or a getter that is left out. -/
  | method (m : Option Method)
  /-- One annotation on the governor. -/
  | mark (a : Annotation)
  /-- A whole bundle. -/
  | bundle (b : Bundle)

/-- The step of an edit. -/
def Edit.step : Edit → Step Draft Unit
  | .field f => addField f
  | .method m => addMethod m
  | .mark a => addAnnotation a
  | .bundle b => merge b

/-- The draft after an edit, whether or not it is refused. -/
def apply (d : Draft) (e : Edit) : Draft := e.step.after d

/-- The draft after a history of edits. -/
def applyAll (d : Draft) (es : List Edit) : Draft := es.foldl apply d

/-! ## The unit -/

/-- The unit that a draft stands for. -/
def build (d : Draft) : CompanionUnit where
  declaredBy := d.declaredBy
  aspect := d.aspect
  governor := d.governor
  fields := d.fields
  methods := d.methods
  annotations := d.annotations
  imports := d.names.imports

end Draft

end AuditAspects
