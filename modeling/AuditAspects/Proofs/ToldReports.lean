import AuditAspects.Console

/-!
# Reports that tell

A command tells how it went if it ends with the exit code zero and no error, or with the
exit code one and one message of an error (`Report.Tells`).  The report of a fault tells
exactly if the fault is of a kind that commands report (`tells_ofFault_iff`).
-/

namespace AuditAspects

/-! ## Reports -/

namespace Report

/-- A report says whether its command went well, and if not, why. -/
structure Tells (r : Report) : Prop where
  /-- No fault ended the command. -/
  caught : r.escaped = none
  /-- There is no error, or one message of an error. -/
  ends : (r.exitCode = 0 ∧ r.err = "") ∨
    (r.exitCode = 1 ∧ ∃ text, r.err = "[ERROR] " ++ text ++ "\n")

theorem tells_of_success {r : Report} (hcaught : r.escaped = none) (hzero : r.exitCode = 0)
    (herr : r.err = "") : r.Tells :=
  ⟨hcaught, .inl ⟨hzero, herr⟩⟩

theorem tells_failure (text : String) : (failure ("[ERROR] " ++ text)).Tells :=
  ⟨rfl, .inr ⟨rfl, text, rfl⟩⟩

theorem not_tells_ended (lines : List String) (f : Fault) : ¬(ended lines f).Tells := by
  intro h
  cases h.caught

/-- The report of a fault tells exactly if the fault is reported. -/
theorem tells_ofFault_iff {f : Fault} {text : String} :
    (ofFault f ("[ERROR] " ++ text)).Tells ↔ f.isReported = true := by
  rw [ofFault]
  split
  next h => exact iff_of_true (tells_failure text) h
  next h => exact iff_of_false (not_tells_ended [] f) h

end Report

end AuditAspects
