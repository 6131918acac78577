import AuditAspects.Proofs.AuditedSource

/-!
# An override inside its literal

The name of a column is free text, so it must not reach anything in a source but the
literal that it is written in.

*The same names.*  A column changes the types that a field mentions only by being there
(`referencedTypes_field_some`), so the imports of a source do not depend on what the
override says (`claims_overridden`).

*The same lines.*  All sources that differ in one override have the same lines before
and after the field of that override (`exists_lines_overridden`).  Inside the field, the
override stands between the quotes of one annotation (`render_of_lines`).
-/

namespace AuditAspects

open Text (ofLines)

/-! ## Setting an override -/

namespace Config

/-- A configuration with one override set. -/
def withOverride (c : Config) (k : ConfigKey) (s : String) : Config :=
  match k with
  | .createdDateColumn => { c with createdDateColumn := some s }
  | .modifiedDateColumn => { c with modifiedDateColumn := some s }
  | .createdByColumn => { c with createdByColumn := some s }
  | .modifiedByColumn => { c with modifiedByColumn := some s }

/-- An override is set for one setting and leaves the others. -/
theorem override?_withOverride (c : Config) (k l : ConfigKey) (s : String) :
    (c.withOverride k s).override? l = if l = k then some s else c.override? l := by
  cases k <;> cases l <;> rfl

/-- An override that leaves a mark takes effect for its key and for no other. -/
theorem columnFor_withOverride (c : Config) (k l : ConfigKey) {s : String}
    (hs : Text.isBlank s = false) :
    (c.withOverride k s).columnFor l = if l = k then some s else c.columnFor l := by
  rw [columnFor, override?_withOverride]
  by_cases h : l = k
  · rw [if_pos h, if_pos h, Option.filter_some, hs]
    rfl
  · rw [if_neg h, if_neg h, columnFor]

end Config

/-- The columns of the rows when one override is set. -/
def overridden (config : Config) (k : ConfigKey) (s : String) (spec : FieldSpec) :
    Option String :=
  if spec.key = k.name then some s else spec.column config

theorem column_withOverride {spec : FieldSpec} (h : spec ∈ auditFields) (config : Config)
    (k : ConfigKey) {s : String} (hs : Text.isBlank s = false) :
    spec.column (config.withOverride k s) = overridden config k s spec := by
  obtain ⟨l, hl⟩ := exists_key_of_mem_auditFields h
  rw [overridden, FieldSpec.column_of_key hl, FieldSpec.column_of_key hl,
    Config.columnFor_withOverride config k l hs, hl]
  by_cases hk : l = k
  · rw [if_pos hk, if_pos (congrArg ConfigKey.name hk)]
  · rw [if_neg hk, if_neg fun hname => hk (ConfigKey.name_injective hname)]

/-- Each key has one row. -/
theorem exists_rows_around (k : ConfigKey) :
    ∃ before spec after, auditFields = before ++ spec :: after ∧ spec.key = k.name ∧
      (∀ row ∈ before, row.key ≠ k.name) ∧ ∀ row ∈ after, row.key ≠ k.name := by
  obtain ⟨spec, hspec, hkey⟩ := exists_row_of_key k
  obtain ⟨before, after, hsplit⟩ := List.append_of_mem hspec
  have hnodup : (auditFields.map FieldSpec.key).Nodup := by decide
  rw [hsplit, List.map_append, List.map_cons, List.nodup_append, List.nodup_cons] at hnodup
  obtain ⟨-, ⟨hafter, -⟩, hbefore⟩ := hnodup
  refine ⟨before, spec, after, hsplit, hkey, fun row hrow h => ?_, fun row hrow h => ?_⟩
  · exact hbefore _ (List.mem_map_of_mem hrow) _ List.mem_cons_self (h.trans hkey.symm)
  · exact hafter (hkey.trans h.symm ▸ List.mem_map_of_mem hrow)

/-! ## The same names -/

/-- What a column is called does not matter for the types that its field mentions. -/
theorem referencedTypes_field_some (spec : FieldSpec) (s t : String) :
    (spec.field (some s)).referencedTypes = (spec.field (some t)).referencedTypes := rfl

/-- The text of an override does not change which types claim names. -/
theorem claims_overridden (config : Config) (k : ConfigKey) (s t : String)
    (declared : String → Bool) :
    (auditBundle (overridden config k s) declared).claims =
      (auditBundle (overridden config k t) declared).claims := by
  have hfields : ∀ spec : FieldSpec,
      (spec.field (overridden config k s spec)).referencedTypes =
        (spec.field (overridden config k t spec)).referencedTypes := by
    intro spec
    rw [overridden, overridden]
    split
    · exact referencedTypes_field_some spec s t
    · rfl
  simp only [Bundle.claims, auditBundle, List.flatMap_map, hfields]

theorem names_overridden (identifier : String) (type : TypeName) (config : Config)
    (k : ConfigKey) (s t : String) (declared : String → Bool) :
    (Contribution.ofBundle identifier type.aspect type
        (auditBundle (overridden config k s) declared)).unit.names =
      (Contribution.ofBundle identifier type.aspect type
        (auditBundle (overridden config k t) declared)).unit.names := by
  have hunit : ∀ b, (Contribution.ofBundle identifier type.aspect type b).unit.names =
      NameTable.forUnit type.aspect type (NameTable.forUnit type.aspect type b.claims).imports :=
    fun _ => rfl
  rw [hunit, hunit, claims_overridden config k s t]

/-! ## The same lines -/

/-- The fields around that of the override do not depend on what it says. -/
theorem exists_fields_overridden (config : Config) (k : ConfigKey) (declared : String → Bool) :
    ∃ spec ∈ auditFields, spec.key = k.name ∧ ∃ before after : List Field, ∀ s,
      (auditBundle (overridden config k s) declared).fields =
        before ++ spec.field (some s) :: after := by
  obtain ⟨before, spec, after, hsplit, hkey, hbefore, hafter⟩ := exists_rows_around k
  have hother : ∀ (rows : List FieldSpec) (s : String), (∀ row ∈ rows, row.key ≠ k.name) →
      rows.map (fun row => row.field (overridden config k s row)) =
        rows.map fun row => row.field (row.column config) := by
    intro rows s hrows
    refine List.map_congr_left fun row hrow => ?_
    rw [overridden, if_neg (hrows row hrow)]
  refine ⟨spec, hsplit ▸ List.mem_append_right _ List.mem_cons_self, hkey,
    before.map fun row => row.field (row.column config),
    after.map fun row => row.field (row.column config), fun s => ?_⟩
  rw [auditBundle, hsplit, List.map_append, List.map_cons, hother before s hbefore,
    hother after s hafter, overridden, if_pos hkey]

namespace Bundle

variable (names : NameTable) (governor : String)

/-- The lines of a bundle up to one of its fields. -/
def linesBefore (listener : Annotation) (before : List Field) : List String :=
  "" :: governorAnnotationLines names governor listener ++
    before.flatMap (fun f => "" :: f.lines names governor) ++ [""]

/-- The lines of a bundle after one of its fields. -/
def linesAfter (after : List Field) (methods : List Method) : List String :=
  after.flatMap (fun f => "" :: f.lines names governor) ++
    methods.flatMap fun m => "" :: m.lines names governor

/-- The lines of a bundle, around those of one field. -/
theorem lines_around {b : Bundle} {before after : List Field} {f : Field}
    (h : b.fields = before ++ f :: after) :
    b.lines names governor =
      linesBefore names governor b.listener before ++ f.lines names governor ++
        linesAfter names governor after b.methods := by
  rw [lines, h, List.flatMap_append, List.flatMap_cons, linesBefore, linesAfter]
  simp

end Bundle

namespace Contribution

/-- Sources that differ in what one override says differ in the lines of its field
only. -/
theorem exists_lines_overridden (identifier : String) (type : TypeName) (config : Config)
    (k : ConfigKey) (declared : String → Bool) :
    ∃ spec ∈ auditFields, spec.key = k.name ∧ ∃ before after : List String, ∀ s,
      (ofBundle identifier type.aspect type
          (auditBundle (overridden config k s) declared)).unit.lines =
        before ++ (spec.field (some s)).lines (auditNames type) type.simpleName ++ after := by
  obtain ⟨spec, hspec, hkey, before, after, hfields⟩ := exists_fields_overridden config k declared
  have hlistener : ∀ s, (auditBundle (overridden config k s) declared).listener = auditListener :=
    fun _ => rfl
  have hmethods : ∀ s, (auditBundle (overridden config k s) declared).methods =
      (auditBundle (overridden config k "") declared).methods := fun _ => rfl
  refine ⟨spec, hspec, hkey,
    opening type ++ CompanionUnit.importLines (ofBundle identifier type.aspect type
        (auditBundle (overridden config k "") declared)).unit.names.imports ++
      aspectLine type ++ Bundle.linesBefore (auditNames type) type.simpleName auditListener before,
    Bundle.linesAfter (auditNames type) type.simpleName after
      (auditBundle (overridden config k "") declared).methods ++ ["", "\x7d"], fun s => ?_⟩
  rw [lines_ofBundle _ _ (agree_ofBundle _ _ _ _), written_auditNames List.mem_cons_self,
    TypeName.beside_self, names_overridden identifier type config k s "",
    Bundle.lines_around _ _ (hfields s), hlistener s, hmethods s]
  simp only [List.append_assoc]

end Contribution

/-! ## The same text -/

/-- The text of lines, each ended by a line feed. -/
def Text.joinLines (lines : List String) : String := String.join (lines.map (· ++ "\n"))

/-- What stands before the name of a column: its annotation up to the opening quote. -/
def columnOpening (type : TypeName) : String :=
  indent ++ "@" ++ TypeName.column.beside type ++ "(name = \""

/-- What stands after the name of a column: the closing quote, the end of the annotation
and the other lines of the field. -/
def columnClosing (type : TypeName) (spec : FieldSpec) : String :=
  "\")\n" ++ Text.joinLines ((spec.field none).lines (auditNames type) type.simpleName)

theorem Text.joinLines_append (ls ms : List String) :
    joinLines (ls ++ ms) = joinLines ls ++ joinLines ms := by
  apply String.toList_inj.mp
  simp [joinLines, String.toList_join]

/-- A field writes the name of its column between two quotes. -/
theorem joinLines_field (type : TypeName) (spec : FieldSpec) (s : String) :
    Text.joinLines ((spec.field (some s)).lines (auditNames type) type.simpleName) =
      columnOpening type ++ escapeText s ++ columnClosing type spec := by
  have hcolumn : (auditNames type).written .column = TypeName.column.beside type :=
    written_auditNames (List.mem_cons_of_mem _ (by decide))
  have hlines : (spec.field (some s)).lines (auditNames type) type.simpleName =
      [indent ++ Annotation.render (auditNames type) (.forColumn s)] ++
        (spec.field none).lines (auditNames type) type.simpleName := lines_field _ _ _ (some s)
  rw [hlines, Text.joinLines_append, columnClosing, ← String.append_assoc]
  refine congrArg (· ++ _) (String.toList_inj.mp ?_)
  have hline : ∀ line : String, (Text.joinLines [line]).toList = line.toList ++ ['\n'] := by
    simp [Text.joinLines]
  rw [hline, toList_columnLine, hcolumn, toList_textLiteral]
  simp [columnOpening, escapeText]

/-- A source of these lines has the override between the texts around it. -/
theorem render_of_lines {u : CompanionUnit} {type : TypeName} {spec : FieldSpec} {s : String}
    {before after : List String}
    (h : u.lines =
      before ++ (spec.field (some s)).lines (auditNames type) type.simpleName ++ after) :
    u.render = Text.joinLines before ++ columnOpening type ++ escapeText s ++
      (columnClosing type spec ++ Text.joinLines after) := by
  have hrender : u.render = Text.joinLines u.lines := rfl
  rw [hrender, h, Text.joinLines_append, Text.joinLines_append, joinLines_field]
  simp only [String.append_assoc]

/-! ## What encloses an override -/

/-- Two texts enclose the column of a row: the first ends with the opening quote of its
annotation, and the second goes on with the closing quote and the rest of the field. -/
structure Encloses (type : TypeName) (spec : FieldSpec) (a b : String) : Prop where
  /-- The annotation starts a line of its own. -/
  opens : ∃ before : List String, a = Text.joinLines before ++ columnOpening type
  /-- The field is followed by whole lines. -/
  closes : ∃ after : List String, b = columnClosing type spec ++ Text.joinLines after

/-- Read from the opening quote on, the literal is the text that was escaped, and what
encloses it is left. -/
theorem Encloses.readInside_eq {type : TypeName} {spec : FieldSpec} {a b : String}
    (h : Encloses type spec a b) (s : String) :
    readInside (escapeText s ++ b).toList = some (s.toList, b.toList.tail) := by
  obtain ⟨after, hb⟩ := h.closes
  have hquote : b.toList = '"' :: b.toList.tail := by
    rw [hb]
    simp [columnClosing]
  rw [escapeText, String.toList_append, String.toList_ofList, hquote]
  exact readInside_escape s.toList b.toList.tail

/-- For a type on a path that can be read back, either the target fails to answer for one
of the four getters, or two texts enclose the column of a key, whatever mark the
override of the key leaves: every source is the first text, the escaped override and the
second text. -/
theorem Contribution.override_in_literal (type : TypeName) (target : Target) (config : Config)
    (path : LogicalPath) (k : ConfigKey) (hne : path.name ≠ "")
    (hsep : '?' ∉ path.name.toList) :
    (∃ spec ∈ auditFields, spec.key = k.name ∧ ∃ a b, Encloses type spec a b ∧
      ∀ s, Text.isBlank s = false → ∀ log, ∃ c,
        (forType type (.proper target) (.proper (config.withOverride k s)) path).result log =
          .ok c ∧
        spec.field (some s) ∈ c.unit.fields ∧
        c.unit.render = a ++ escapeText s ++ b ∧
        readInside (escapeText s ++ b).toList = some (s.toList, b.toList.tail)) ∨
    ∃ name ∈ auditGetters, ∃ f, target.declares name = .error f ∧ ∀ s log,
      (forType type (.proper target) (.proper (config.withOverride k s)) path).result log =
        .error f := by
  cases hf : target.firstFault auditGetters with
  | some f =>
      obtain ⟨name, hname, hfault⟩ := Target.declares_of_firstFault hf
      refine .inr ⟨name, hname, f, hfault, fun s log => ?_⟩
      rw [result_forType type target _ hne hsep, hf]
  | none =>
      obtain ⟨spec, hspec, hkey, before, after, hlines⟩ :=
        exists_lines_overridden (Identifier.create type path) type config k target.affirms
      have hencloses : Encloses type spec (Text.joinLines before ++ columnOpening type)
          (columnClosing type spec ++ Text.joinLines after) := ⟨⟨before, rfl⟩, ⟨after, rfl⟩⟩
      refine .inl ⟨spec, hspec, hkey, _, _, hencloses, fun s hs log => ?_⟩
      have hbundle : auditBundle (·.column (config.withOverride k s)) target.affirms =
          auditBundle (overridden config k s) target.affirms :=
        auditBundle_congr (fun row hrow => column_withOverride hrow config k hs) fun _ _ => rfl
      have hresult := result_forType_of_answers type (config.withOverride k s) hne hsep
        (Target.firstFault_eq_none_iff.mp hf) log
      rw [hbundle] at hresult
      refine ⟨_, hresult, ?_, render_of_lines (hlines s), hencloses.readInside_eq s⟩
      refine List.mem_map.mpr ⟨spec, hspec, ?_⟩
      rw [overridden, if_pos hkey]

/-- An override that looks like the end of its annotation and a comment. -/
theorem Contribution.override_in_literal_comment :
    ∃ c, (forType ⟨"com.example.domain.Column", by decide⟩ (.proper (.ofNames ["getCreatedBy"]))
        (.proper (Config.withOverride { createdDateColumn := some "at" } .createdByColumn
          "who\") //\\")) {}).result [] = .ok c ∧
      ∃ a b, c.unit.render = a ++ "who\\\") //\\\\" ++ b := by
  rcases override_in_literal ⟨"com.example.domain.Column", by decide⟩
      (.ofNames ["getCreatedBy"]) { createdDateColumn := some "at" } {} .createdByColumn
      (by decide +kernel) (by decide +kernel) with
    ⟨spec, -, -, a, b, -, hall⟩ | ⟨name, -, f, hf, -⟩
  · obtain ⟨c, hc, -, hrender, -⟩ := hall "who\") //\\" (by decide +kernel) []
    exact ⟨c, hc, a, b, hrender⟩
  · simp [Target.ofNames] at hf

end AuditAspects
