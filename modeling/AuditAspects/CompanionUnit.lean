import AuditAspects.Member

/-!
# Companion units

A companion unit holds the members that are introduced into one entity, its
governor, from a file of their own, the aspect.
-/

namespace AuditAspects

/-- The contents of one companion unit. -/
structure CompanionUnit where
  /-- The identifier of the contribution that the unit comes from. -/
  declaredBy : String
  /-- The unit itself, as a type. -/
  aspect : TypeName
  /-- The entity that the members are introduced into. -/
  governor : TypeName
  /-- The fields, in source order. -/
  fields : List Field
  /-- The methods, in source order. -/
  methods : List Method
  /-- The annotations on the governor, in source order. -/
  annotations : List Annotation
  /-- The types that the unit imports, in ascending order. -/
  imports : List TypeName
deriving DecidableEq

/-- The types that the members of a unit mention. -/
def CompanionUnit.referencedTypes (u : CompanionUnit) : List TypeName :=
  u.annotations.flatMap (·.referencedTypes) ++ u.fields.flatMap (·.referencedTypes) ++
    u.methods.flatMap (·.referencedTypes)

/-- The unit holds exactly the members of a bundle. -/
def CompanionUnit.holds (u : CompanionUnit) (b : Bundle) : Bool :=
  u.fields = b.fields && u.methods = b.methods && u.annotations = [b.listener]

end AuditAspects
