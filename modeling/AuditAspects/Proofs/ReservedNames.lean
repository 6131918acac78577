import AuditAspects.Proofs.ClaimHistory

/-!
# Reserved names and imports

A table keeps one list of owners, whether a name was reserved or came with an import, and
imports every owner that is not visible.  So reserving a name does not import a type as
long as the type is visible, as an aspect is in its own unit, or does not get the name.

`reservationOutcome` says after every history of calls which types a further reservation
imports: those that gain their simple name by it without being visible.
-/

namespace AuditAspects

namespace NameTable

variable {n : NameTable} {types : List TypeName} {t : TypeName}

/-- A type gains its simple name by a row of claims: the name has no owner yet, and no
earlier type of the row has it. -/
def Gains (n : NameTable) (types : List TypeName) (t : TypeName) : Prop :=
  n.owner? t.simpleName = none ∧ FirstClaim types t

/-- After a row of claims a type owns its simple name if it did before or gains it. -/
theorem owns_claimAll_iff_or : (n.claimAll types).owns t ↔ n.owns t ∨ n.Gains types t := by
  rw [owns_iff, owns_iff, Gains, owner?_claimAll]
  cases ho : n.owner? t.simpleName with
  | none => simp [find?_eq_some_iff_firstClaim]
  | some u => simp

/-- After a reservation a type is imported that was before, or that gains its name and is not
visible. -/
theorem isImported_reserve_iff :
    (n.reserve types).isImported t ↔
      n.isImported t ∨ (n.Gains types t ∧ n.isVisible t = false) := by
  have howns : (n.reserve types).owns t ↔ n.owns t ∨ n.Gains types t := owns_claimAll_iff_or
  have hvisible : (n.reserve types).isVisible t = n.isVisible t := isVisible_claimAll types
  rw [isImported, isImported, Bool.and_eq_true, Bool.and_eq_true, howns, hvisible,
    Bool.not_eq_true', or_and_right]

/-- A type that gains its name was not imported before. -/
theorem Gains.not_isImported (h : n.Gains types t) : ¬n.isImported t := by
  rw [isImported_iff, h.1]
  rintro ⟨hnone, -⟩
  cases hnone

/-- What a reservation does to the imports. -/
structure ReservationOutcome (n : NameTable) (types : List TypeName) : Prop where
  /-- The imported types are those from before, and those that gain their names without
  being visible. -/
  imported_iff : ∀ t, (n.reserve types).isImported t ↔
    n.isImported t ∨ (n.Gains types t ∧ n.isVisible t = false)
  /-- No type becomes imported exactly if all types that gain their names are visible. -/
  none_imported_iff : (∀ t, (n.reserve types).isImported t → n.isImported t) ↔
    ∀ t, n.Gains types t → n.isVisible t
  /-- The list of imports stays as it is exactly under the same condition. -/
  imports_eq_iff : (n.reserve types).imports = n.imports ↔
    ∀ t, n.Gains types t → n.isVisible t

/-- What a reservation does to a table whose names have one owner each. -/
theorem Distinct.outcome_reserve (h : n.Distinct) (types : List TypeName) :
    ReservationOutcome n types := by
  have hreserve : (n.reserve types).Distinct := h.claimAll types
  have hnone : (∀ t, (n.reserve types).isImported t → n.isImported t) ↔
      ∀ t, n.Gains types t → n.isVisible t := by
    constructor
    · intro hkeeps t hgains
      by_contra hvisible
      refine hgains.not_isImported (hkeeps t (isImported_reserve_iff.mpr (.inr ⟨hgains, ?_⟩)))
      rwa [Bool.not_eq_true] at hvisible
    · intro hvisible t himported
      rcases isImported_reserve_iff.mp himported with hbefore | ⟨hgains, hforeign⟩
      · exact hbefore
      · rw [hvisible t hgains] at hforeign
        cases hforeign
  refine ⟨fun t => isImported_reserve_iff, hnone, ?_⟩
  rw [← hnone]
  constructor
  · intro heq t himported
    rw [← mem_imports_iff_isImported h, ← heq, mem_imports_iff_isImported hreserve]
    exact himported
  · intro hkeeps
    refine imports_congr hreserve h fun t => ?_
    rw [mem_imports_iff_isImported hreserve, mem_imports_iff_isImported h]
    exact ⟨hkeeps t, fun hbefore => isImported_reserve_iff.mpr (.inl hbefore)⟩

/-- After every history of calls, a reservation imports just the types that gain their
names by it without being visible. -/
theorem reservationOutcome (package : String) (calls : List Call) (types : List TypeName) :
    ReservationOutcome (runAll ⟨package, []⟩ calls) types := by
  rw [runAll_eq_claimAll]
  exact ((distinct_empty package).claimAll _).outcome_reserve types

/-- A type of another package that is reserved in an empty table is imported. -/
theorem reserve_calendar :
    (runAll ⟨"com.example.domain", []⟩ []).imports = [] ∧
      (runAll ⟨"com.example.domain", []⟩ []).isImported .calendar = false ∧
      ((runAll ⟨"com.example.domain", []⟩ []).reserve [.calendar]).imports = [.calendar] ∧
      ((runAll ⟨"com.example.domain", []⟩ []).reserve [.calendar]).isImported .calendar := by
  decide +kernel

end NameTable

end AuditAspects
