import AuditAspects.Fault
import AuditAspects.Sorting
import AuditAspects.Text.Blank

/-!
# Audit configuration

The column overrides of one audited entity.  A configuration is read from a
marker, a list of named values of any kind: unknown names are refused first, all
at once and in ascending order, then the first setting in declaration order that
is neither text nor absent.  An override that is blank counts as absent
(`columnFor_eq_some_iff`).
-/

namespace AuditAspects

/-- The entries of a marker, each name at most once. -/
abbrev Marker := List (String × Value)

/-- The column overrides of an audited entity. -/
structure Config where
  /-- The column of the creation date. -/
  createdDateColumn : Option String := none
  /-- The column of the date of the last change. -/
  modifiedDateColumn : Option String := none
  /-- The column of the creator. -/
  createdByColumn : Option String := none
  /-- The column of the author of the last change. -/
  modifiedByColumn : Option String := none
deriving DecidableEq

namespace Config

/-! ## Overrides -/

/-- The override of a key, as given. -/
def override? (c : Config) : ConfigKey → Option String
  | .createdDateColumn => c.createdDateColumn
  | .modifiedDateColumn => c.modifiedDateColumn
  | .createdByColumn => c.createdByColumn
  | .modifiedByColumn => c.modifiedByColumn

/-- The override of a key that takes effect. -/
def columnFor (c : Config) (k : ConfigKey) : Option String :=
  (c.override? k).filter fun s => !Text.isBlank s

/-- The override that takes effect for a key of any kind. -/
def columnOf (c : Config) (key : Value) : Except Fault (Option String) :=
  match key with
  | .text s =>
      match ConfigKey.ofName? s with
      | some k => .ok (c.columnFor k)
      | none => .error (.unknownKey s)
  | v => .error (.unknownKey v.plain)

/-- An override takes effect exactly as given, and only if it leaves a mark. -/
theorem columnFor_eq_some_iff {c : Config} {k : ConfigKey} {s : String} :
    c.columnFor k = some s ↔ c.override? k = some s ∧ Text.isBlank s = false := by
  simp [columnFor, Option.filter_eq_some_iff]

@[simp] theorem columnOf_name (c : Config) (k : ConfigKey) :
    c.columnOf (.text k.name) = .ok (c.columnFor k) := by
  rw [columnOf, ConfigKey.ofName?_name]

/-! ## Reading a marker -/

/-- The name of the receiver of a marker, which no marker may give. -/
def receiverName : String := "cls"

/-- The names in a marker that no setting has, in ascending order. -/
def unknownNames (m : Marker) : List String :=
  sortTexts ((m.map Prod.fst).filter fun s => (ConfigKey.ofName? s).isNone)

/-- The value of a setting in a marker. -/
def setting (m : Marker) (k : ConfigKey) : Except Fault (Option String) :=
  match m.lookup k.name with
  | none => .ok none
  | some .null => .ok none
  | some (.text s) => .ok (some s)
  | some v => .error (.settingNotText k v.kindName)

/-- The configuration of a marker whose names are all known. -/
def ofSettings (m : Marker) : Except Fault Config := do
  let createdDate ← setting m .createdDateColumn
  let modifiedDate ← setting m .modifiedDateColumn
  let createdBy ← setting m .createdByColumn
  let modifiedBy ← setting m .modifiedByColumn
  return ⟨createdDate, modifiedDate, createdBy, modifiedBy⟩

/-- The configuration of a marker. -/
def ofMarker (m : Marker) : Except Fault Config :=
  if (m.lookup receiverName).isSome then .error .receiverGiven
  else if unknownNames m ≠ [] then .error (.unknownKeys (unknownNames m))
  else ofSettings m

/-! ## Tests -/

example : (ofMarker [("created_by_column", .text "who")]).toOption
    = some { createdByColumn := some "who" } := by decide +kernel
example : ({ createdByColumn := some " \t" } : Config).columnFor .createdByColumn = none := by
  decide
example : (unknownNames [("z", .null), ("a", .null), ("created_by_column", .null)])
    = ["a", "z"] := by decide +kernel

end Config

end AuditAspects
