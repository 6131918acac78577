import AuditAspects.TypeName

/-!
# Annotations

An annotation is a tag, which fixes its type, with attributes.  The types that
an annotation refers to are listed in the order of its source: the annotation's
own type first, then those of its attributes.
-/

namespace AuditAspects

/-- The kinds of annotation that audit members carry. -/
inductive AnnotationTag
  /-- The column that holds a field. -/
  | column
  /-- The date of creation. -/
  | createdDate
  /-- The date of the last change. -/
  | lastModifiedDate
  /-- The precision of a date. -/
  | temporal
  /-- The creator. -/
  | createdBy
  /-- The author of the last change. -/
  | lastModifiedBy
  /-- The listeners of an entity. -/
  | entityListeners
deriving DecidableEq

namespace AnnotationTag

/-- All tags, in the order they are declared. -/
def all : List AnnotationTag :=
  [column, createdDate, lastModifiedDate, temporal, createdBy, lastModifiedBy, entityListeners]

/-- The annotation type of a tag. -/
def type : AnnotationTag → TypeName
  | column => .column
  | createdDate => .createdDate
  | lastModifiedDate => .lastModifiedDate
  | temporal => .temporal
  | createdBy => .createdBy
  | lastModifiedBy => .lastModifiedBy
  | entityListeners => .entityListeners

end AnnotationTag

/-- The value of an annotation attribute. -/
inductive AttributeValue
  /-- A text, written as a literal. -/
  | text (s : String)
  /-- A constant of an enumeration. -/
  | constant (type : TypeName) (name : String)
  /-- A class object. -/
  | classOf (type : TypeName)
deriving DecidableEq

/-- The types that an attribute value mentions. -/
def AttributeValue.referencedTypes : AttributeValue → List TypeName
  | .text _ => []
  | .constant type _ => [type]
  | .classOf type => [type]

/-- A named value on an annotation. -/
structure Attribute where
  /-- The name of the attribute. -/
  name : String
  /-- Its value. -/
  value : AttributeValue
deriving DecidableEq

/-- A tag with attributes. -/
structure Annotation where
  /-- What the annotation says. -/
  tag : AnnotationTag
  /-- The details, in source order. -/
  attributes : List Attribute := []
deriving DecidableEq

namespace Annotation

/-- The first attribute of a given name. -/
def attribute? (a : Annotation) (name : String) : Option Attribute :=
  a.attributes.find? (·.name = name)

/-- The types that an annotation mentions. -/
def referencedTypes (a : Annotation) : List TypeName :=
  a.tag.type :: a.attributes.flatMap (·.value.referencedTypes)

end Annotation

end AuditAspects
