import AuditAspects.CompanionUnit.Source
import AuditAspects.Proofs.DraftHistory

/-!
# The names of a unit and of its draft

The source of a unit is written from a table that is put together again from the
aspect, the governor and the imports.  `written_build_eq_iff` says for every
history of edits which names of that table are those of the draft: all but the
names of the types that the draft `Confuses`.  Such a type is visible by itself,
and so is the type that owns its simple name, so that neither is imported and the
unit no longer tells them apart.
-/

namespace AuditAspects

namespace Draft

/-- The source of the draft's unit writes a type by the simple name of another type.
Both are visible by themselves, and the other one owns the name without being the
aspect or the governor. -/
def Confuses (d : Draft) (t : TypeName) : Prop :=
  d.names.isVisible t ∧ '.' ∈ t.name.toList ∧
    ∃ u, d.names.owner? t.simpleName = some u ∧ u ≠ t ∧ d.names.isVisible u ∧
      u ≠ d.aspect ∧ u ≠ d.governor

theorem Records.names_build {d : Draft} {history : List TypeName} (h : Records d history) :
    d.build.names = NameTable.forUnit d.aspect d.governor
      (NameTable.forUnit d.aspect d.governor history).imports := by
  rw [← h.names_eq]
  rfl

/-- Two fields whose types share a simple name.  In a unit of the package
`com.example.domain` both types are visible, and the first one owns the name. -/
def twoStringFields : List Edit :=
  [.field { name := "title", type := .string },
   .field { name := "label", type := ⟨"com.example.domain.String", by decide⟩ }]

/-- The draft with these two fields. -/
def twoStrings : Draft :=
  applyAllIn .source
    (start "" ⟨"com.example.domain.Customer_Audit", by decide⟩
      ⟨"com.example.domain.Customer", by decide⟩)
    twoStringFields

/-- The source of a unit and the bookkeeping of its draft give a type the same name
unless the draft confuses it with another. -/
theorem written_build_eq_iff (o : ClaimOrder) (declaredBy : String) (aspect governor : TypeName)
    (es : List Edit) (t : TypeName)
    (ht : t ∈ governor ::
      (applyAllIn o (start declaredBy aspect governor) es).build.referencedTypes) :
    (applyAllIn o (start declaredBy aspect governor) es).build.names.written t =
        (applyAllIn o (start declaredBy aspect governor) es).names.written t ↔
      ¬(applyAllIn o (start declaredBy aspect governor) es).Confuses t := by
  obtain ⟨history, h⟩ := exists_records_applyAllIn o declaredBy aspect governor es
  obtain ⟨haspect, hgovernor⟩ := aspect_governor_applyAllIn o declaredBy aspect governor es
  generalize applyAllIn o (start declaredBy aspect governor) es = d at *
  obtain ⟨u, ho⟩ := h.exists_owner (hgovernor ▸ ht)
  have hu : ∀ v, d.names.owner? t.simpleName = some v ↔ v = u := by
    intro v
    rw [ho, Option.some.injEq, eq_comm]
  rw [h.names_eq] at ho
  rw [h.names_build, h.names_eq, NameTable.written_forUnit_imports_iff _ _ _ ho, ← h.names_eq]
  refine not_congr ⟨?_, ?_⟩
  · rintro ⟨hvis, hdot, hrest⟩
    exact ⟨hvis, hdot, u, (hu u).mpr rfl, hrest⟩
  · rintro ⟨hvis, hdot, v, hv, hrest⟩
    rw [(hu v).mp hv] at hrest
    exact ⟨hvis, hdot, hrest⟩

/-- Of two types with one simple name, the second is confused with the first. -/
theorem written_build_eq_iff_twoStrings :
    ⟨"com.example.domain.String", by decide⟩ ∈ twoStrings.governor ::
        twoStrings.build.referencedTypes ∧
      (twoStrings.build.names.written ⟨"com.example.domain.String", by decide⟩ =
          twoStrings.names.written ⟨"com.example.domain.String", by decide⟩ ↔
        ¬twoStrings.Confuses ⟨"com.example.domain.String", by decide⟩) :=
  ⟨by decide +kernel,
    written_build_eq_iff .source "" ⟨"com.example.domain.Customer_Audit", by decide⟩
      ⟨"com.example.domain.Customer", by decide⟩ twoStringFields
      ⟨"com.example.domain.String", by decide⟩ (by decide +kernel)⟩

/-- The draft writes the second type in full; the source of its unit writes both types
by the same name. -/
theorem written_build_ne_twoStrings :
    ⟨"com.example.domain.String", by decide⟩ ∈ twoStrings.build.referencedTypes ∧
      twoStrings.names.written ⟨"com.example.domain.String", by decide⟩ =
        "com.example.domain.String" ∧
      twoStrings.build.names.written ⟨"com.example.domain.String", by decide⟩ = "String" ∧
      twoStrings.build.names.written .string = "String" ∧
      "    private String Customer.label;" ∈ twoStrings.build.lines := by
  decide +kernel

end Draft

end AuditAspects
