import AuditAspects.Sorting
import AuditAspects.Text.Split

/-!
# Type names

A type of the generated source is known by its fully qualified name, a text
that is not empty.  The simple name is what follows the last dot and the package
is what stands before it; the two determine the name (`name_eq_simpleName`,
`name_eq_package_simpleName`), and the simple name holds no dot
(`dot_not_mem_simpleName`).  The names that audit members refer to stand at the
end.
-/

namespace AuditAspects

/-- A type by its fully qualified name. -/
structure TypeName where
  /-- The fully qualified name. -/
  name : String
  /-- A type has a name. -/
  name_ne : name ≠ "" := by decide
deriving DecidableEq

namespace TypeName

/-- The type of a given name, if it is one. -/
def ofString? (s : String) : Option TypeName :=
  if h : s = "" then none else some ⟨s, h⟩

/-- The name after its last dot. -/
def simpleName (t : TypeName) : String :=
  match Text.cutLast '.' t.name.toList with
  | some (_, simple) => String.ofList simple
  | none => t.name

/-- The name before its last dot; the default package is empty. -/
def package (t : TypeName) : String :=
  match Text.cutLast '.' t.name.toList with
  | some (package, _) => String.ofList package
  | none => ""

/-- The package whose types are visible everywhere. -/
def langPackage : String := "java.lang"

/-- A type that is visible everywhere. -/
def isLang (t : TypeName) : Bool :=
  t.package = langPackage

/-- Types are ordered by their names. -/
def le (a b : TypeName) : Bool :=
  textLe a.name b.name

/-- Types in ascending order of their names. -/
def sort : List TypeName → List TypeName := sortBy le

theorem ext_name {a b : TypeName} (h : a.name = b.name) : a = b := by
  cases a; cases b; cases h; rfl

theorem ofString?_name (t : TypeName) : ofString? t.name = some t := by
  rw [ofString?, dif_neg t.name_ne]

/-- A text is read as the type with that name. -/
theorem ofString?_eq_some_iff {s : String} {t : TypeName} :
    ofString? s = some t ↔ t.name = s := by
  constructor
  · intro h
    rw [ofString?] at h
    split at h
    · cases h
    · cases h; rfl
  · rintro rfl
    exact ofString?_name t

/-- A simple name holds no dot. -/
theorem dot_not_mem_simpleName (t : TypeName) : '.' ∉ t.simpleName.toList := by
  rw [simpleName]
  cases h : Text.cutLast '.' t.name.toList with
  | none => exact Text.cutLast_eq_none_iff.mp h
  | some p =>
      rw [String.toList_ofList]
      exact (Text.cutLast_eq_some_iff.mp h).2

/-- A name without a dot is its own simple name, in the default package. -/
theorem name_eq_simpleName {t : TypeName} (h : '.' ∉ t.name.toList) :
    t.simpleName = t.name ∧ t.package = "" := by
  rw [simpleName, package, Text.cutLast_eq_none_iff.mpr h]
  exact ⟨rfl, rfl⟩

/-- A name with a dot is its package, a dot and its simple name. -/
theorem name_eq_package_simpleName {t : TypeName} (h : '.' ∈ t.name.toList) :
    t.name = t.package ++ "." ++ t.simpleName := by
  rw [simpleName, package]
  cases hc : Text.cutLast '.' t.name.toList with
  | none => exact absurd h (Text.cutLast_eq_none_iff.mp hc)
  | some p =>
      apply String.toList_inj.mp
      simpa using (Text.cutLast_eq_some_iff.mp hc).1

/-! ## The types of audit members -/

/-- A moment of time. -/
def calendar : TypeName := ⟨"java.util.Calendar", by decide⟩

/-- A text. -/
def string : TypeName := ⟨"java.lang.String", by decide⟩

/-- The annotation that names a column. -/
def column : TypeName := ⟨"javax.persistence.Column", by decide⟩

/-- The annotation that gives a date its precision. -/
def temporal : TypeName := ⟨"javax.persistence.Temporal", by decide⟩

/-- The precisions of a date. -/
def temporalType : TypeName := ⟨"javax.persistence.TemporalType", by decide⟩

/-- The annotation that attaches listeners to an entity. -/
def entityListeners : TypeName := ⟨"javax.persistence.EntityListeners", by decide⟩

/-- The annotation of the creation date. -/
def createdDate : TypeName := ⟨"org.springframework.data.annotation.CreatedDate", by decide⟩

/-- The annotation of the date of the last change. -/
def lastModifiedDate : TypeName :=
  ⟨"org.springframework.data.annotation.LastModifiedDate", by decide⟩

/-- The annotation of the creator. -/
def createdBy : TypeName := ⟨"org.springframework.data.annotation.CreatedBy", by decide⟩

/-- The annotation of the author of the last change. -/
def lastModifiedBy : TypeName :=
  ⟨"org.springframework.data.annotation.LastModifiedBy", by decide⟩

/-- The listener that fills the audit fields. -/
def auditingEntityListener : TypeName :=
  ⟨"org.springframework.data.jpa.domain.support.AuditingEntityListener", by decide⟩

/-! ## Tests -/

example : calendar.simpleName = "Calendar" := by decide
example : calendar.package = "java.util" := by decide
example : string.isLang = true := by decide
example : (TypeName.mk ".A" (by decide)).package = "" := by decide
example : (TypeName.mk "boolean" (by decide)).package = "" := by decide

end TypeName

end AuditAspects
