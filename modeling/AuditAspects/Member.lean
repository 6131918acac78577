import AuditAspects.Annotation
import AuditAspects.Modifier

/-!
# Members

The fields and methods that a companion unit introduces into an entity, and the
bundle of everything that auditing contributes to one entity.  Members hold no
state of their own, so two bundles made from the same inputs are equal.
-/

namespace AuditAspects

/-- A field to be introduced. -/
structure Field where
  /-- The name of the field. -/
  name : String
  /-- Its type. -/
  type : TypeName
  /-- Its modifiers. -/
  modifiers : Modifiers := .only .privateAccess
  /-- Its annotations, in source order. -/
  annotations : List Annotation := []
deriving DecidableEq

namespace Field

/-- A field left out of the stored state. -/
def isTransient (f : Field) : Bool := f.modifiers.has .transient

/-- A field of the class. -/
def isStatic (f : Field) : Bool := f.modifiers.has .static

/-- A field of the stored state of each instance, as audit fields have to
be. -/
def isStored (f : Field) : Bool := !f.isTransient && !f.isStatic

/-- The first annotation of a given tag. -/
def annotation? (f : Field) (tag : AnnotationTag) : Option Annotation :=
  f.annotations.find? (·.tag = tag)

/-- The types that a field mentions. -/
def referencedTypes (f : Field) : List TypeName :=
  f.type :: f.annotations.flatMap (·.referencedTypes)

end Field

/-- A method without arguments to be introduced. -/
structure Method where
  /-- The name of the method. -/
  name : String
  /-- The type it returns. -/
  type : TypeName
  /-- Its modifiers. -/
  modifiers : Modifiers := .only .publicAccess
  /-- The lines of its body. -/
  body : List String := []
deriving DecidableEq

/-- The types that a method mentions. -/
def Method.referencedTypes (m : Method) : List TypeName := [m.type]

/-- Everything that auditing contributes to one entity. -/
structure Bundle where
  /-- The audit fields. -/
  fields : List Field
  /-- The getters. -/
  methods : List Method
  /-- The annotation that attaches the audit listener. -/
  listener : Annotation
deriving DecidableEq

namespace Bundle

/-- The first field of a given name. -/
def field? (b : Bundle) (name : String) : Option Field :=
  b.fields.find? (·.name = name)

/-- The first method of a given name. -/
def method? (b : Bundle) (name : String) : Option Method :=
  b.methods.find? (·.name = name)

/-- The types that a bundle mentions. -/
def referencedTypes (b : Bundle) : List TypeName :=
  b.listener.referencedTypes ++ b.fields.flatMap (·.referencedTypes) ++
    b.methods.flatMap (·.referencedTypes)

theorem mem_referencedTypes {b : Bundle} {t : TypeName} :
    t ∈ b.referencedTypes ↔ t ∈ b.listener.referencedTypes ∨
      (∃ f ∈ b.fields, t ∈ f.referencedTypes) ∨ ∃ m ∈ b.methods, t ∈ m.referencedTypes := by
  simp [referencedTypes]

end Bundle

end AuditAspects
