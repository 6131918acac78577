import AuditAspects.CompanionUnit.Draft
import AuditAspects.Proofs.DraftHistory

/-!
# Merging a bundle

A bundle whose member names are free and pairwise distinct is merged without fault.
The draft then holds its members behind those it had, and their types have claimed
their names in the order of the members (`merge_of_nodup`).
-/

namespace AuditAspects

/-- The types of a bundle in the order in which a merge lets them claim their names. -/
def Bundle.claims (b : Bundle) : List TypeName :=
  b.fields.flatMap (·.referencedTypes) ++ b.methods.flatMap (·.referencedTypes) ++
    b.listener.referencedTypes

/-- The members of a bundle claim the types that it mentions. -/
theorem Bundle.mem_claims {b : Bundle} {t : TypeName} : t ∈ b.claims ↔ t ∈ b.referencedTypes := by
  simp only [claims, referencedTypes, List.mem_append]
  tauto

namespace Draft

theorem addFields_of_nodup {d : Draft} (fs : List Field)
    (h : ((d.fields ++ fs).map Field.name).Nodup) :
    (addFields fs).result d = .ok () ∧
      (addFields fs).after d =
        { d with fields := d.fields ++ fs,
                 names := d.names.addImports (fs.flatMap (·.referencedTypes)) } := by
  induction fs generalizing d with
  | nil =>
      rw [List.append_nil]
      exact ⟨rfl, rfl⟩
  | cons f fs ih =>
      have free : ¬∃ g ∈ d.fields, g.name = f.name := free_of_nodup_map h
      have hok : (addField f).result d = .ok () := by
        rw [addField, result_addFieldClaiming, if_neg free]
      have hafter : (addField f).after d =
          { d with fields := d.fields ++ [f], names := d.names.addImports f.referencedTypes } := by
        rw [addField, after_addFieldClaiming, if_neg free]
      have hrest := ih (d := (addField f).after d) (by simpa [hafter] using h)
      rw [addFields, Step.result_bind, Step.after_bind, hok]
      refine ⟨hrest.1, hrest.2.trans ?_⟩
      simp [hafter, NameTable.addImports, NameTable.claimAll_append]

theorem addMethods_of_nodup {d : Draft} (ms : List Method)
    (h : ((d.methods ++ ms).map Method.name).Nodup) :
    (addMethods ms).result d = .ok () ∧
      (addMethods ms).after d =
        { d with methods := d.methods ++ ms,
                 names := d.names.addImports (ms.flatMap (·.referencedTypes)) } := by
  induction ms generalizing d with
  | nil =>
      rw [List.append_nil]
      exact ⟨rfl, rfl⟩
  | cons m ms ih =>
      have free : ¬∃ g ∈ d.methods, g.name = m.name := free_of_nodup_map h
      have hok : (addMethod (some m)).result d = .ok () := by
        rw [addMethod, result_addMethodClaiming, if_neg free]
      have hafter : (addMethod (some m)).after d =
          { d with methods := d.methods ++ [m],
                   names := d.names.addImports m.referencedTypes } := by
        rw [addMethod, after_addMethodClaiming, if_neg free]
      have hrest := ih (d := (addMethod (some m)).after d) (by simpa [hafter] using h)
      rw [addMethods, Step.result_bind, Step.after_bind, hok]
      refine ⟨hrest.1, hrest.2.trans ?_⟩
      simp [hafter, NameTable.addImports, NameTable.claimAll_append]

/-- A bundle whose names are free and distinct is merged as a whole. -/
theorem merge_of_nodup {d : Draft} {b : Bundle}
    (hfields : ((d.fields ++ b.fields).map Field.name).Nodup)
    (hmethods : ((d.methods ++ b.methods).map Method.name).Nodup) :
    (merge b).result d = .ok () ∧
      (merge b).after d =
        { d with fields := d.fields ++ b.fields, methods := d.methods ++ b.methods,
                 annotations := d.annotations ++ [b.listener],
                 names := d.names.addImports b.claims } := by
  obtain ⟨hfok, hfafter⟩ := addFields_of_nodup b.fields hfields
  obtain ⟨hmok, hmafter⟩ := addMethods_of_nodup (d := (addFields b.fields).after d)
    b.methods (by simpa [hfafter] using hmethods)
  simp only [merge, Step.result_bind, Step.after_bind, hfok, hmok]
  refine ⟨rfl, ?_⟩
  rw [hmafter, hfafter]
  simp [Bundle.claims, NameTable.addImports, NameTable.claimAll_append, addAnnotation,
    addAnnotationClaiming]

end Draft

end AuditAspects
