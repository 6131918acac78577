import AuditAspects.Fault
import AuditAspects.Text.UpperCase

/-!
# Accessor names

The getter of a property has the property's name with its first character in
upper case, after `get`, or after `is` for the primitive truth values.
-/

namespace AuditAspects

/-- A name with its first character in upper case, if there is one. -/
def capitalized? (name : String) : Option String :=
  match name.toList with
  | [] => none
  | c :: cs => some (String.ofList (Text.upperCase c ++ cs))

/-- The name of the primitive type of truth values. -/
def primitiveBoolean : String := "boolean"

/-- What an accessor name starts with, by the type of its property. -/
def accessorVerb : Option TypeName → String
  | some t => if t.name = primitiveBoolean then "is" else "get"
  | none => "get"

/-- The name of a property's getter. -/
def accessorName (name : String) (type : Option TypeName) : Except Fault String :=
  match capitalized? name with
  | some capital => .ok (accessorVerb type ++ capital)
  | none => .error .nameMissing

/-! ## Tests -/

example : (accessorName "createdBy" (some .string)).toOption = some "getCreatedBy" := by
  decide +kernel
example : (accessorName "active" (some ⟨"boolean", by decide⟩)).toOption = some "isActive" := by
  decide +kernel

end AuditAspects
