import AuditAspects.Proofs.ClaimHistory
import AuditAspects.Proofs.HeldMembers
import AuditAspects.Proofs.RebuiltNames
import AuditAspects.Proofs.SourceHeading

/-!
# Imports and full names in a source

The source of a unit is written with a table that is put together again from the aspect,
the governor and the imports of the unit.

*Imports.*  That table imports the types that the unit imports, in the same order
(`imports_forUnit_imports`), and the import lines above the aspect line say just these
(`importedNames_lines`).

*Full names.*  In the places that the source has for a type, the type is written in full only
if an earlier type of the draft, the aspect or the governor among them, keeps its simple name
from it (`Forestalls`).  It is then written in full unless the draft confuses the two.
`sourceNaming_applyAllIn` says so after every history of edits.
-/

namespace AuditAspects

/-! ## Reading the imports of a source -/

/-- The name in an import line. -/
def importLine? (line : String) : Option String := Text.between? "import " ";" line

/-- The names in the import lines of a source, by its lines up to the aspect line. -/
def importedNames (lines : List String) : List String :=
  (lines.takeWhile fun line => (aspectLine? line).isNone).filterMap importLine?

namespace CompanionUnit

theorem importLine?_packageLines {package line : String} (h : line ∈ packageLines package) :
    importLine? line = none := by
  refine Text.between?_eq_none_of_head? rfl ?_
  rcases mem_packageLines h with rfl | rfl
  · decide
  · have hkeyword : "package ".toList.head? = some 'p' := rfl
    rw [String.toList_append, String.toList_append, List.head?_append, List.head?_append, hkeyword,
      Option.some_or, Option.some_or]
    decide

theorem filterMap_importLines (imports : List TypeName) :
    (importLines imports).filterMap importLine? = imports.map TypeName.name := by
  have hline : ∀ t : TypeName, importLine? ("import " ++ t.name ++ ";") = some t.name :=
    fun t => Text.between?_eq_some_iff.mpr rfl
  have hempty : importLine? "" = none := Text.between?_eq_none_of_head? rfl (by decide)
  rw [importLines]
  split
  next h => rw [h]; rfl
  next =>
    rw [List.filterMap_append, List.filterMap_map, List.filterMap_cons, hempty]
    simp [hline]

/-- No other line above the aspect passes for an import. -/
theorem filterMap_linesAbove (u : CompanionUnit) :
    u.linesAbove.filterMap importLine? = u.names.imports.map TypeName.name := by
  have hbanner : banner.filterMap importLine? = [] := by
    have hhead : ∀ line ∈ banner, line.toList.head? ≠ some 'i' := by decide +kernel
    exact List.filterMap_eq_nil_iff.mpr fun line h =>
      Text.between?_eq_none_of_head? rfl (hhead line h)
  have hpackage : (packageLines u.aspect.package).filterMap importLine? = [] :=
    List.filterMap_eq_nil_iff.mpr fun line h => importLine?_packageLines h
  rw [linesAbove, List.filterMap_append, List.filterMap_append, hbanner, hpackage,
    filterMap_importLines]
  rfl

/-- The imports are read from the lines above the aspect, whatever comes below. -/
theorem importedNames_of_linesAbove (u : CompanionUnit) (below : List String) :
    importedNames (u.linesAbove ++
        ("privileged aspect " ++ u.aspect.simpleName ++ " \x7b") :: below) =
      u.names.imports.map TypeName.name := by
  have hline : aspectLine? ("privileged aspect " ++ u.aspect.simpleName ++ " \x7b") =
      some u.aspect.simpleName := Text.between?_eq_some_iff.mpr rfl
  rw [importedNames, List.takeWhile_append_of_pos, List.takeWhile_cons_of_neg, List.append_nil,
    filterMap_linesAbove]
  · simp [hline]
  · intro line h
    rw [aspectLine?_linesAbove h]
    rfl

/-- The import lines of a unit are the imports of the table that it is written with. -/
theorem importedNames_lines (u : CompanionUnit) :
    importedNames u.lines = u.names.imports.map TypeName.name := by
  rw [lines_eq, importedNames_of_linesAbove]

end CompanionUnit

/-! ## The imports of the table that is put together again -/

theorem NameTable.imports_forUnit_imports (aspect governor : TypeName) (types : List TypeName) :
    (forUnit aspect governor (forUnit aspect governor types).imports).imports =
      (forUnit aspect governor types).imports := by
  refine imports_congr (forUnit_distinct _ _ _) (forUnit_distinct _ _ _) fun t => ?_
  rw [mem_imports_iff (forUnit_distinct _ _ _), mem_imports_iff (forUnit_distinct _ _ _),
    isVisible_forUnit, isVisible_forUnit, owner?_forUnit_imports, Option.filter_eq_some_iff,
    isVisible_forUnit]
  constructor
  · rintro ⟨⟨howner, -⟩, hvisible⟩
    exact ⟨howner, hvisible⟩
  · rintro ⟨howner, hvisible⟩
    exact ⟨⟨howner, by simp [hvisible]⟩, hvisible⟩

/-! ## Names that are kept from a type -/

/-- An earlier type of a row keeps its simple name from a later one: the two are different
types of this name, and the earlier is the first of the row that has it. -/
def Forestalls (row : List TypeName) (u t : TypeName) : Prop :=
  u ≠ t ∧ u.simpleName = t.simpleName ∧ ∃ before after, row = before ++ u :: after ∧
    t ∈ after ∧ ∀ w ∈ before, w.simpleName ≠ t.simpleName

/-- What forestalls a type is the first of the row with its simple name. -/
theorem forestalls_iff {row : List TypeName} {u t : TypeName} (ht : t ∈ row) :
    Forestalls row u t ↔ row.find? (·.simpleName = t.simpleName) = some u ∧ u ≠ t := by
  rw [List.find?_eq_some_iff_append]
  constructor
  · rintro ⟨hne, hsame, before, after, hrow, -, hfree⟩
    exact ⟨⟨by simpa using hsame, before, after, hrow, fun w hw => by simpa using hfree w hw⟩, hne⟩
  · rintro ⟨⟨hsame, before, after, hrow, hfree⟩, hne⟩
    have hfree : ∀ w ∈ before, w.simpleName ≠ t.simpleName := fun w hw => by
      simpa using hfree w hw
    refine ⟨hne, by simpa using hsame, before, after, hrow, ?_, hfree⟩
    rw [hrow, List.mem_append, List.mem_cons] at ht
    rcases ht with ht | ht | ht
    · exact absurd rfl (hfree t ht)
    · exact absurd ht.symm hne
    · exact ht

/-! ## The types of the held members -/

theorem ClaimOrder.mem_claims {o : ClaimOrder} {held : List Member} {t : TypeName} :
    t ∈ o.claims held ↔ ∃ m ∈ held, t ∈ m.referencedTypes := by
  constructor
  · intro h
    obtain ⟨⟨m, i⟩, hm, ht⟩ := List.mem_flatMap.mp h
    have hfst : m ∈ held.zipIdx.map Prod.fst := List.mem_map_of_mem hm
    rw [List.zipIdx_map_fst] at hfst
    exact ⟨m, hfst, o.mem_arrange.mp ht⟩
  · rintro ⟨m, hm, ht⟩
    rw [← List.zipIdx_map_fst 0 held] at hm
    obtain ⟨p, hp, rfl⟩ := List.mem_map.mp hm
    exact List.mem_flatMap.mpr ⟨p, hp, o.mem_arrange.mpr ht⟩

namespace Draft

variable {o : ClaimOrder} {d : Draft} {held : List Member}

/-- The unit of a draft mentions what its members mention. -/
theorem Holds.mem_referencedTypes (h : Holds o d held) {t : TypeName} :
    t ∈ d.build.referencedTypes ↔ ∃ m ∈ held, t ∈ m.referencedTypes := by
  have hbuild : d.build.referencedTypes = d.annotations.flatMap (·.referencedTypes) ++
      d.fields.flatMap (·.referencedTypes) ++ d.methods.flatMap (·.referencedTypes) := rfl
  simp only [hbuild, h.fields_eq, h.methods_eq, h.annotations_eq, List.mem_append, List.mem_flatMap,
    List.mem_filterMap]
  constructor
  · rintro ((⟨a, ⟨m, hm, ha⟩, ht⟩ | ⟨f, ⟨m, hm, hf⟩, ht⟩) | ⟨g, ⟨m, hm, hg⟩, ht⟩)
    · cases m <;> cases ha
      exact ⟨_, hm, ht⟩
    · cases m <;> cases hf
      exact ⟨_, hm, ht⟩
    · cases m <;> cases hg
      exact ⟨_, hm, ht⟩
  · rintro ⟨m, hm, ht⟩
    cases m with
    | field f => exact .inl (.inr ⟨f, ⟨_, hm, rfl⟩, ht⟩)
    | method g => exact .inr ⟨g, ⟨_, hm, rfl⟩, ht⟩
    | mark a => exact .inl (.inl ⟨a, ⟨_, hm, rfl⟩, ht⟩)

/-- The claims of the held members are a history of the draft's table. -/
theorem Holds.records (h : Holds o d held) : Records d (o.claims held) where
  names_eq := h.names_eq
  mem_iff := fun t => by rw [ClaimOrder.mem_claims, h.mem_referencedTypes]

/-! ## Full names -/

theorem confuses_iff {t u : TypeName} (ho : d.names.owner? t.simpleName = some u) :
    d.Confuses t ↔ d.names.isVisible t ∧ '.' ∈ t.name.toList ∧ u ≠ t ∧ d.names.isVisible u ∧
      u ≠ d.aspect ∧ u ≠ d.governor := by
  rw [Confuses, ho]
  simp only [Option.some.injEq]
  constructor
  · rintro ⟨hvisible, hdot, v, rfl, hrest⟩
    exact ⟨hvisible, hdot, hrest⟩
  · rintro ⟨hvisible, hdot, hrest⟩
    exact ⟨hvisible, hdot, u, rfl, hrest⟩

/-- The source of a unit writes a type in full if another type owns its simple name, unless
the draft confuses the two. -/
theorem Records.written_build_eq_name_iff {history : List TypeName} (h : Records d history)
    {t u : TypeName} (hdot : '.' ∈ t.name.toList)
    (ho : d.names.owner? t.simpleName = some u) :
    d.build.names.written t = t.name ↔ u ≠ t ∧ ¬d.Confuses t := by
  have hsame : d.build.names.written t = d.names.written t ↔ ¬d.Confuses t := by
    have hunit := ho
    rw [h.names_eq] at hunit
    rw [confuses_iff ho, h.names_build, h.names_eq,
      NameTable.written_forUnit_imports_iff _ _ _ hunit]
  have hfull : d.names.written t = t.name ↔ u ≠ t := by
    by_cases hut : u = t
    · have hne : t.simpleName ≠ t.name := fun heq => t.dot_not_mem_simpleName (heq ▸ hdot)
      rw [NameTable.written_of_owner (hut ▸ ho)]
      simp [hut, hne]
    · simp [NameTable.written_of_other ho hut, hut]
  by_cases hconfuses : d.Confuses t
  · obtain ⟨-, -, hut, -⟩ := (confuses_iff ho).mp hconfuses
    rw [← hfull.mpr hut]
    simp [hsame, hconfuses]
  · rw [hsame.mpr hconfuses, hfull]
    simp [hconfuses]

/-- A name is kept from a type exactly if another type owns it. -/
theorem Records.exists_forestalls_iff {history : List TypeName} (h : Records d history)
    {t u : TypeName} (ht : t ∈ d.governor :: d.build.referencedTypes)
    (ho : d.names.owner? t.simpleName = some u) :
    (∃ v, d.names.owns v ∧ Forestalls (d.aspect :: d.governor :: history) v t) ↔ u ≠ t := by
  have hrow : t ∈ d.aspect :: d.governor :: history := by
    refine List.mem_cons_of_mem _ ?_
    rcases List.mem_cons.mp ht with rfl | ht
    · exact List.mem_cons_self
    · exact List.mem_cons_of_mem _ ((h.mem_iff t).mpr ht)
  have howner : d.names.owner? t.simpleName =
      (d.aspect :: d.governor :: history).find? (·.simpleName = t.simpleName) := by
    rw [h.names_eq, NameTable.forUnit_eq_claimAll, NameTable.owner?_claimAll_empty]
  simp only [forestalls_iff hrow, ← howner, ho, Option.some.injEq]
  constructor
  · rintro ⟨v, -, rfl, hne⟩
    exact hne
  · intro hne
    refine ⟨u, ?_, rfl, hne⟩
    rw [NameTable.owns_iff, NameTable.simpleName_of_owner? ho, ho]

/-- How the source of a unit imports and writes types, by the row in which they claimed
their names. -/
structure SourceNaming (d : Draft) (row : List TypeName) : Prop where
  /-- The table of the source has the imports of the unit, in the same order. -/
  imports_eq : d.build.names.imports = d.build.imports
  /-- The import lines of the source are these imports, in the same order. -/
  imported : importedNames d.build.lines = d.build.imports.map TypeName.name
  /-- They are also read back from the text, unless a name above the members breaks a
  line. -/
  imported_text : '\n' ∉ d.aspect.name.toList → (∀ t ∈ d.build.imports, '\n' ∉ t.name.toList) →
    importedNames (Text.linesOf d.build.render) = d.build.imports.map TypeName.name
  /-- The source has places for the aspect, for the types that members mention and, with each
  member, for the governor. -/
  hasPlace_iff : ∀ t, d.build.layout.HasPlace t ↔ t = d.aspect ∨ t ∈ d.build.referencedTypes ∨
    t = d.governor ∧ (d.annotations ≠ [] ∨ d.fields ≠ [] ∨ d.methods ≠ [])
  /-- In its places a type is written by its name in the table of the source. -/
  render_eq : d.build.render.toList =
    Text.ofLines (d.build.layout.fill d.build.names.written)
  /-- This name is the simple name or the full one. -/
  written_or : ∀ t, d.build.names.written t = t.simpleName ∨ d.build.names.written t = t.name
  /-- The governor, or a type that a member mentions, is written in full exactly if an
  earlier type of the row owns its simple name and the draft does not confuse the two. -/
  full_iff : ∀ t ∈ d.governor :: d.build.referencedTypes, '.' ∈ t.name.toList →
    (d.build.names.written t = t.name ↔
      (∃ u, d.names.owns u ∧ Forestalls row u t) ∧ ¬d.Confuses t)

/-- A draft with a recorded history names types in its source as the history says. -/
theorem Records.sourceNaming {history : List TypeName} (h : Records d history) :
    SourceNaming d (d.aspect :: d.governor :: history) := by
  have himports : d.build.names.imports = d.build.imports := by
    have hbuild : d.build.imports = d.names.imports := rfl
    rw [hbuild, h.names_build, h.names_eq, NameTable.imports_forUnit_imports]
  refine ⟨himports, ?_, ?_, fun _ => CompanionUnit.hasPlace_layout, d.build.render_eq_fill,
    fun t => NameTable.written_eq_simpleName_or_name _ t, ?_⟩
  · rw [CompanionUnit.importedNames_lines, himports]
  · intro haspect hnames
    have hpackage : '\n' ∉ d.build.aspect.package.toList :=
      fun hmem => haspect (d.aspect.mem_name_of_mem_package hmem)
    have hsimple : '\n' ∉ d.build.aspect.simpleName.toList :=
      fun hmem => haspect (d.aspect.mem_name_of_mem_simpleName hmem)
    obtain ⟨below, hlines⟩ := CompanionUnit.exists_linesOf_render rfl
      (CompanionUnit.linesAbove_unbroken hpackage (himports ▸ hnames)) hsimple
    rw [hlines, CompanionUnit.importedNames_of_linesAbove, himports]
  · intro t ht hdot
    obtain ⟨u, ho⟩ := h.exists_owner ht
    rw [h.written_build_eq_name_iff hdot ho, h.exists_forestalls_iff ht ho]

/-- After every history of edits the source of the unit imports what the unit imports, and
writes a type in full only if it has to. -/
theorem sourceNaming_applyAllIn (o : ClaimOrder) (declaredBy : String) (aspect governor : TypeName)
    (es : List Edit) :
    SourceNaming (applyAllIn o (start declaredBy aspect governor) es)
      (aspect :: governor :: o.claims (heldAfter es)) := by
  obtain ⟨haspect, hgovernor⟩ := aspect_governor_applyAllIn o declaredBy aspect governor es
  have h := (holds_applyAllIn o declaredBy aspect governor es).records.sourceNaming
  rwa [haspect, hgovernor] at h

/-- Of two types with one simple name, the first is imported and the second is written in
full. -/
example :
    let d := applyAll
      (start "" ⟨"com.example.domain.Customer_Audit", by decide⟩
        ⟨"com.example.domain.Customer", by decide⟩)
      [.field { name := "born", type := .calendar },
       .field { name := "due", type := ⟨"com.example.time.Calendar", by decide⟩ }]
    d.build.imports = [.calendar] ∧
      d.build.names.written .calendar = "Calendar" ∧
      d.build.names.written ⟨"com.example.time.Calendar", by decide⟩ =
        "com.example.time.Calendar" := by decide +kernel

end Draft

end AuditAspects
