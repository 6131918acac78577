import AuditAspects.Step

/-!
# Log records

Steps of auditing leave records behind.  A `Logged` step adds its records to
those before it and keeps them when it fails.
-/

namespace AuditAspects

/-- How much a record matters. -/
inductive Level
  /-- Of interest when looking for a fault. -/
  | debug
  /-- The usual course of events. -/
  | info
  /-- Something is likely to be amiss. -/
  | warning
deriving DecidableEq

/-- A line of the log. -/
structure Record where
  /-- How much the line matters. -/
  level : Level
  /-- The line. -/
  text : String
deriving DecidableEq

/-- A step whose state is the log. -/
abbrev Logged (α : Type) := Step (List Record) α

namespace Logged

/-- Adds one record. -/
def note (level : Level) (text : String) : Logged Unit :=
  modify (· ++ [⟨level, text⟩])

@[simp] theorem after_note (level : Level) (text : String) (records : List Record) :
    Step.after (note level text) records = records ++ [⟨level, text⟩] := rfl

@[simp] theorem result_note (level : Level) (text : String) (records : List Record) :
    Step.result (note level text) records = .ok () := rfl

end Logged

end AuditAspects
