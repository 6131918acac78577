import AuditAspects.Accessor
import AuditAspects.Log
import AuditAspects.Member
import AuditAspects.Target

/-!
# Producing the audit members

An audited entity gets four fields, a getter for each field whose getter it does
not declare itself, and the annotation that attaches the audit listener.  The
table `auditFields` says what the fields are.  Production goes through the table
in order and notes each getter it leaves out; it stops at the first field that is
not stored with each instance.  How a field is built is a parameter of
`produceWith`; `produce` uses `FieldSpec.build`.
-/

namespace AuditAspects

/-! ## The table of audit fields -/

/-- A row of the table of audit fields. -/
structure FieldSpec where
  /-- The name of the field. -/
  name : String
  /-- Its type. -/
  type : TypeName
  /-- The annotation that says what the field records. -/
  role : AnnotationTag
  /-- The field is a date. -/
  temporal : Bool
  /-- The name of the setting that overrides its column. -/
  key : String
deriving DecidableEq

/-- The audit fields, in the order they are introduced. -/
def auditFields : List FieldSpec :=
  [⟨"createdDate", .calendar, .createdDate, true, ConfigKey.createdDateColumn.name⟩,
   ⟨"modifiedDate", .calendar, .lastModifiedDate, true, ConfigKey.modifiedDateColumn.name⟩,
   ⟨"createdBy", .string, .createdBy, false, ConfigKey.createdByColumn.name⟩,
   ⟨"modifiedBy", .string, .lastModifiedBy, false, ConfigKey.modifiedByColumn.name⟩]

/-- The annotation of a date to the millisecond. -/
def timestampPrecision : Annotation :=
  ⟨.temporal, [⟨"value", .constant .temporalType "TIMESTAMP"⟩]⟩

/-- The annotation that attaches the audit listener. -/
def auditListener : Annotation :=
  ⟨.entityListeners, [⟨"value", .classOf .auditingEntityListener⟩]⟩

/-- The annotation that names a column. -/
def Annotation.forColumn (name : String) : Annotation :=
  ⟨.column, [⟨"name", .text name⟩]⟩

/-! ## One field -/

/-- The field of a row, with the column of an override that takes effect, the
role and, for a date, its precision. -/
def FieldSpec.field (spec : FieldSpec) (column : Option String) : Field where
  name := spec.name
  type := spec.type
  annotations :=
    (column.map Annotation.forColumn).toList ++ ⟨spec.role, []⟩ ::
      (if spec.temporal then [timestampPrecision] else [])

/-- The field of a row under a configuration. -/
def FieldSpec.build (config : Config) (spec : FieldSpec) : Except Fault Field :=
  (config.columnOf (.text spec.key)).map spec.field

/-- The getter of a field. -/
def Field.getter (field : Field) (name : String) : Method where
  name := name
  type := field.type
  body := ["return this." ++ field.name ++ ";"]

/-- The getter of a field, unless the target declares it or the field is not
stored with each instance. -/
def getterFor (field : Field) (target : Target) : Logged (Option Method) := do
  let name ← Step.ofExcept (accessorName field.name (some field.type))
  let declared ← Step.ofExcept (target.declares name)
  if declared then
    Logged.note .debug ("Target already declares " ++ name ++ "(), skipping getter")
    return none
  else if field.isStored then
    return some (field.getter name)
  else
    return none

/-- The operation that makes a value a target. -/
def targetOperation : String := "has_declared_method"

/-- The getter of a field for whatever is offered as field and target. -/
def accessorFor (field : Option Field) (target : Offered Target) : Logged (Option Method) :=
  match field with
  | none => throw .fieldMissing
  | some field =>
      match target with
      | .proper target => getterFor field target
      | .foreign v => do
          let _ ← Step.ofExcept (accessorName field.name (some field.type))
          throw (.operationMissing v.kindName targetOperation)

/-! ## All fields -/

/-- The fields and getters of the rows of a table. -/
def produceMembers (build : FieldSpec → Except Fault Field) (target : Target) :
    List FieldSpec → Logged (List Field × List Method)
  | [] => return ([], [])
  | spec :: specs => do
      let field ← Step.ofExcept (build spec)
      if !field.isStored then
        throw (.fieldNotStored field.name)
      let getter ← getterFor field target
      let (fields, methods) ← produceMembers build target specs
      return (field :: fields, getter.toList ++ methods)

/-- The bundle of a target, with a given way to build each field. -/
def produceWith (build : FieldSpec → Except Fault Field) (target : Target) : Logged Bundle := do
  let (fields, methods) ← produceMembers build target auditFields
  return ⟨fields, methods, auditListener⟩

/-- The configuration and the target of a production, if they are what is
expected.  The configuration is looked at first. -/
def checkOffer (target : Offered Target) (config : Offered Config) :
    Except Fault (Target × Config) :=
  match config, target with
  | .foreign .null, _ => .error .configMissing
  | .foreign v, _ => .error (.configForeign v.kindName)
  | .proper _, .foreign .null => .error .targetMissing
  | .proper _, .foreign v => .error (.targetForeign v.quoted)
  | .proper config, .proper target => .ok (target, config)

/-- The bundle of whatever is offered, with each field changed as it is
built. -/
def produceChanged (change : Field → Field) (target : Offered Target) (config : Offered Config) :
    Logged Bundle := do
  let (target, config) ← Step.ofExcept (checkOffer target config)
  produceWith (fun spec => (spec.build config).map change) target

/-- The bundle of a target under a configuration. -/
def produce (target : Offered Target) (config : Offered Config) : Logged Bundle := do
  let (target, config) ← Step.ofExcept (checkOffer target config)
  produceWith (·.build config) target

/-! ## Tests -/

/-- A target that declares nothing gets four fields and four getters. -/
example : (Step.result (produce (.proper (.ofNames [])) (.proper {})) []).toOption.map
      (fun b => (b.fields.map Field.name, b.methods.map Method.name))
    = some (["createdDate", "modifiedDate", "createdBy", "modifiedBy"],
        ["getCreatedDate", "getModifiedDate", "getCreatedBy", "getModifiedBy"]) := by
  decide +kernel
/-- A getter that the target declares is left out and noted. -/
example : Step.after (produce (.proper (.ofNames ["getCreatedBy"])) (.proper {})) []
    = [⟨.debug, "Target already declares getCreatedBy(), skipping getter"⟩] := by
  decide +kernel

end AuditAspects
