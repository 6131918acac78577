import AuditAspects.Proofs.QualifiedNames

/-!
# Imports of types without a package

A primitive type and a type of the default package have no package, so no import line can
name them.  A table hides from the imports only the types that are visible by themselves,
and in a unit that has a package these two kinds are not.  Such a type is therefore imported
exactly if it is the first to claim its simple name (`NameTable.mem_imports_unpackaged_iff`).

`unpackagedImports_applyAllIn` says after every history of edits when the imports are free of
such types: when an earlier type keeps its simple name from each that a member mentions.
-/

namespace AuditAspects

/-- A type without a package: a primitive type, or one of the default package. -/
def TypeName.IsUnpackaged (t : TypeName) : Prop := t.package = ""

instance (t : TypeName) : Decidable t.IsUnpackaged :=
  inferInstanceAs (Decidable (t.package = ""))

/-- In a table of a package, a type without one is imported exactly if it is the first to
claim its simple name. -/
theorem NameTable.mem_imports_unpackaged_iff {package : String} (hpackage : package ≠ "")
    (claims : List TypeName) {t : TypeName} (ht : t.IsUnpackaged) :
    t ∈ (claimAll ⟨package, []⟩ claims).imports ↔ FirstClaim claims t := by
  have h := firstWins_claimAll package claims
  have hlang : TypeName.langPackage ≠ "" := by decide
  have hforeign : t.package ≠ TypeName.langPackage ∧ t.package ≠ package := by
    rw [ht]
    exact ⟨hlang.symm, hpackage.symm⟩
  rw [h.mem_imports, h.imported_iff, h.owns_iff, and_iff_left hforeign]

namespace Draft

variable {o : ClaimOrder} {d : Draft} {history : List TypeName}

/-- Which types without a package a draft's unit imports, by the row of claims. -/
structure UnpackagedImports (d : Draft) (row : List TypeName) : Prop where
  /-- A type without a package is imported exactly if it claims its simple name first. -/
  mem_iff : ∀ t, t.IsUnpackaged → (t ∈ d.build.imports ↔ NameTable.FirstClaim row t)
  /-- The source of the unit then has an import line for it. -/
  line_iff : ∀ t, t.IsUnpackaged →
    (t.name ∈ importedNames d.build.lines ↔ NameTable.FirstClaim row t)
  /-- Every import has a package exactly if an earlier type keeps its simple name from each
  type without a package that a member mentions. -/
  packaged_iff : (∀ t ∈ d.build.imports, ¬t.IsUnpackaged) ↔
    ∀ t ∈ d.build.referencedTypes, t.IsUnpackaged → ∃ u, d.names.owns u ∧ Forestalls row u t

theorem Records.unpackagedImports (h : Records d history) (haspect : ¬d.aspect.IsUnpackaged)
    (hgovernor : ¬d.governor.IsUnpackaged) :
    UnpackagedImports d (d.aspect :: d.governor :: history) := by
  have hnames : d.names =
      NameTable.claimAll ⟨d.aspect.package, []⟩ (d.aspect :: d.governor :: history) :=
    h.names_eq.trans (NameTable.forUnit_eq_claimAll _ _ _)
  have hmem : ∀ t, t.IsUnpackaged → (t ∈ d.build.imports ↔
      NameTable.FirstClaim (d.aspect :: d.governor :: history) t) := by
    intro t ht
    rw [← NameTable.mem_imports_unpackaged_iff haspect _ ht, ← hnames]
    rfl
  have howns : ∀ t, t.IsUnpackaged → (t ∈ d.build.imports ↔
      d.names.owner? t.simpleName = some t) := by
    intro t ht
    rw [hmem t ht, ← NameTable.owns_iff, hnames, NameTable.owns_claimAll_iff]
  refine ⟨hmem, ?_, ?_⟩
  · intro t ht
    rw [h.sourceNaming.imported, List.mem_map, ← hmem t ht]
    constructor
    · rintro ⟨u, hu, hname⟩
      rwa [← TypeName.ext_name hname]
    · intro himported
      exact ⟨t, himported, rfl⟩
  · constructor
    · intro hpackaged t ht hunpackaged
      obtain ⟨u, ho⟩ := h.exists_owner (List.mem_cons_of_mem _ ht)
      rw [h.exists_forestalls_iff (List.mem_cons_of_mem _ ht) ho]
      intro hself
      exact hpackaged t ((howns t hunpackaged).mpr (hself ▸ ho)) hunpackaged
    · intro hkept t himported hunpackaged
      have ht : t ∈ d.build.referencedTypes := by
        have himports : t ∈ (NameTable.forUnit d.aspect d.governor history).imports :=
          h.names_eq ▸ himported
        rcases NameTable.mem_of_mem_imports_forUnit _ _ _ himports with rfl | hmention
        · exact absurd hunpackaged hgovernor
        · exact (h.mem_iff t).mp hmention
      have ho := (howns t hunpackaged).mp himported
      exact (h.exists_forestalls_iff (List.mem_cons_of_mem _ ht) ho).mp
        (hkept t ht hunpackaged) rfl

/-- After every history of edits in a unit whose aspect and governor have a package. -/
theorem unpackagedImports_applyAllIn (o : ClaimOrder) (declaredBy : String)
    (aspect governor : TypeName) (haspect : ¬aspect.IsUnpackaged)
    (hgovernor : ¬governor.IsUnpackaged) (es : List Edit) :
    UnpackagedImports (applyAllIn o (start declaredBy aspect governor) es)
      (aspect :: governor :: o.claims (heldAfter es)) := by
  obtain ⟨ha, hg⟩ := aspect_governor_applyAllIn o declaredBy aspect governor es
  have h := (holds_applyAllIn o declaredBy aspect governor es).records.unpackagedImports
  rw [ha, hg] at h
  exact h haspect hgovernor

/-- The history of one field of a primitive type. -/
def activeField : List Edit := [.field { name := "active", type := ⟨primitiveBoolean, by decide⟩ }]

/-- The draft after this history, in a unit that has a package. -/
def activeAccount : Draft :=
  applyAllIn .source
    (start "" ⟨"com.example.domain.Account_Audit", by decide⟩
      ⟨"com.example.domain.Account", by decide⟩)
    activeField

theorem unpackagedImports_activeAccount :
    ¬TypeName.IsUnpackaged ⟨"com.example.domain.Account_Audit", by decide⟩ ∧
      ¬TypeName.IsUnpackaged ⟨"com.example.domain.Account", by decide⟩ ∧
      UnpackagedImports activeAccount
        (⟨"com.example.domain.Account_Audit", by decide⟩ ::
          ⟨"com.example.domain.Account", by decide⟩ ::
            ClaimOrder.source.claims (heldAfter activeField)) :=
  ⟨by decide, by decide,
    unpackagedImports_applyAllIn .source "" ⟨"com.example.domain.Account_Audit", by decide⟩
      ⟨"com.example.domain.Account", by decide⟩ (by decide) (by decide) activeField⟩

/-- The unit of this draft imports the primitive type. -/
theorem imports_activeAccount :
    activeAccount.aspect.package = "com.example.domain" ∧
      activeAccount.governor.package = "com.example.domain" ∧
      activeAccount.build.imports = [⟨primitiveBoolean, by decide⟩] ∧
      TypeName.IsUnpackaged ⟨primitiveBoolean, by decide⟩ ∧
      "import boolean;" ∈ activeAccount.build.lines := by
  decide +kernel

end Draft

end AuditAspects
