import AuditAspects.Fault
import AuditAspects.LogicalPath
import AuditAspects.TypeName

/-!
# Contribution identifiers

A text that identifies the audit contribution for one type on one logical path:
a fixed beginning, the path, a question mark and the type.  A text identifies a
contribution when neither part is empty; the parts are found at the first
question mark.
-/

namespace AuditAspects

namespace Identifier

/-- What kind of item an identifier names. -/
def itemType : String := "MID:auditgen.auditing.metadata.AuditMetadata"

/-- What every identifier begins with. -/
def opening : String := itemType ++ "#"

/-- What stands between the path and the type. -/
def separator : Char := '?'

/-- The identifier of the contribution for a type on a path. -/
def create (type : TypeName) (path : LogicalPath) : String :=
  itemType ++ "#" ++ path.name ++ String.singleton separator ++ type.name

/-- A text without its beginning, if it begins so. -/
def dropOpening : (opening text : List Char) → Option (List Char)
  | [], text => some text
  | _ :: _, [] => none
  | o :: opening, c :: text => if o = c then dropOpening opening text else none

/-- The path and the type of an identifier. -/
def partsOf? (s : String) : Option (String × TypeName) := do
  let instancePart ← dropOpening opening.toList s.toList
  let (path, type) ← Text.cutFirst separator instancePart
  if path.isEmpty then none
  else (TypeName.ofString? (String.ofList type)).map fun t => (String.ofList path, t)

/-- The path and the type of a value, if it is an identifier. -/
def parts? : Value → Option (String × TypeName)
  | .text s => partsOf? s
  | _ => none

/-- A value that identifies an audit contribution. -/
def isValid (v : Value) : Bool := (parts? v).isSome

/-- The parts of a value that has to be an identifier. -/
def parts (v : Value) : Except Fault (String × TypeName) :=
  match parts? v with
  | some p => .ok p
  | none => .error (.identifierInvalid v.plain)

/-- The type of an identifier. -/
def type (v : Value) : Except Fault TypeName := (parts v).map Prod.snd

/-- The logical path of an identifier. -/
def path (v : Value) : Except Fault LogicalPath :=
  (parts v).map fun p => LogicalPath.ofName p.1

/-- What begins with an opening is the opening and the rest. -/
theorem dropOpening_eq_some_iff {opening text rest : List Char} :
    dropOpening opening text = some rest ↔ text = opening ++ rest := by
  induction opening generalizing text with
  | nil => simp [dropOpening]
  | cons o os ih =>
      cases text with
      | nil => simp [dropOpening]
      | cons c cs =>
          by_cases h : o = c
          · simp [dropOpening, h, ih]
          · simp [dropOpening, h, Ne.symm h]

/-! ## Tests -/

example : (partsOf? (create ⟨"a.B", by decide⟩ ⟨"SRC", "m"⟩))
    = some ("m:SRC", ⟨"a.B", by decide⟩) := by decide +kernel
example : isValid (.text (opening ++ "?a.B")) = false := by decide +kernel
example : isValid .null = false := by decide +kernel

end Identifier

end AuditAspects
