import AuditAspects.Bundle.Production
import AuditAspects.CompanionUnit.Draft
import AuditAspects.CompanionUnit.Source
import AuditAspects.Identifier

/-!
# Audit contributions

The contribution for one governor: its bundle, and the companion unit that the
bundle makes up.  An invalid identifier is refused before the target and the
configuration are looked at.
-/

namespace AuditAspects

/-- What the name of an aspect ends with. -/
def aspectEnding : String := "_Audit"

/-- The aspect of a type, in the type's package. -/
def TypeName.aspect (t : TypeName) : TypeName :=
  ⟨t.name ++ aspectEnding, by simp [t.name_ne]⟩

/-- The audit contribution for one governor. -/
structure Contribution where
  /-- The identifier of the contribution. -/
  identifier : String
  /-- The aspect that holds the members. -/
  aspect : TypeName
  /-- The entity that the members are introduced into. -/
  governor : TypeName
  /-- What the production gave. -/
  bundle : Bundle
  /-- The companion unit of the bundle. -/
  unit : CompanionUnit
deriving DecidableEq

namespace Contribution

/-- The contribution with a given identifier and aspect. -/
def build (identifier : Value) (aspect : TypeName) (target : Offered Target)
    (config : Offered Config) : Logged Contribution := do
  let governor ← Step.ofExcept (Identifier.type identifier)
  let bundle ← produce target config
  let draft := Draft.start identifier.plain aspect governor
  Step.ofExcept (Step.result (Draft.merge bundle) draft)
  let unit := (Step.after (Draft.merge bundle) draft).build
  Logged.note .debug ("Built " ++ aspect.simpleName ++ ": " ++ toString bundle.fields.length ++
    " field(s), " ++ toString bundle.methods.length ++ " method(s)")
  return ⟨identifier.plain, aspect, governor, bundle, unit⟩

/-- The contribution for a type on a path. -/
def forType (type : TypeName) (target : Offered Target) (config : Offered Config)
    (path : LogicalPath) : Logged Contribution :=
  build (.text (Identifier.create type path)) type.aspect target config

/-- A short text for a contribution. -/
def summary (c : Contribution) : String :=
  "AuditMetadata(identifier='" ++ c.identifier ++ "')"

/-! ## Tests -/

example : (Step.result (forType ⟨"a.B", by decide⟩ (.proper (.ofNames [])) (.proper {}) {})
      []).toOption.map (fun c => (c.aspect.name, c.unit.holds c.bundle))
    = some ("a.B_Audit", true) := by decide +kernel

end Contribution

end AuditAspects
