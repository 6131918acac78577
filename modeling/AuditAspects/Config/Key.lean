/-!
# Configuration keys

The four settings of an audit marker, one for each audit field.
-/

namespace AuditAspects

/-- A setting of an audit marker. -/
inductive ConfigKey
  /-- The column of the creation date. -/
  | createdDateColumn
  /-- The column of the date of the last change. -/
  | modifiedDateColumn
  /-- The column of the creator. -/
  | createdByColumn
  /-- The column of the author of the last change. -/
  | modifiedByColumn
deriving DecidableEq

namespace ConfigKey

/-- All keys, in the order they are declared. -/
def all : List ConfigKey :=
  [createdDateColumn, modifiedDateColumn, createdByColumn, modifiedByColumn]

/-- The name of a key in a marker. -/
def name : ConfigKey → String
  | createdDateColumn => "created_date_column"
  | modifiedDateColumn => "modified_date_column"
  | createdByColumn => "created_by_column"
  | modifiedByColumn => "modified_by_column"

/-- The key of a given name. -/
def ofName? (s : String) : Option ConfigKey :=
  all.find? (·.name = s)

theorem mem_all (k : ConfigKey) : k ∈ all := by
  cases k <;> decide

theorem name_injective {k l : ConfigKey} (h : k.name = l.name) : k = l := by
  revert h
  cases k <;> cases l <;> decide

/-- A setting is found by its key. -/
theorem ofName?_name (k : ConfigKey) : ofName? k.name = some k := by
  cases k <;> decide

/-- Other texts are keys of no setting. -/
theorem ofName?_eq_none_iff {s : String} : ofName? s = none ↔ ∀ k : ConfigKey, k.name ≠ s := by
  simp only [ofName?, List.find?_eq_none, decide_eq_true_eq]
  exact ⟨fun h k => h k (mem_all k), fun h k _ => h k⟩

end ConfigKey

end AuditAspects
