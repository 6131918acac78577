import AuditAspects.Proofs.AuditedSource
import AuditAspects.Proofs.ClaimHistory
import AuditAspects.Proofs.ContributionOutcome

/-!
# Rows of a source

A line feed and a carriage return each end a row of a text.  The lines of a unit are cut
into rows one by one (`rows_render`), so a line without breaks takes one row, and every
break in it makes one row more (`length_rows`).

Escaping looks at backslashes and quotes only.  A literal has the breaks of its text
(`countP_textLiteral`), and so has the line of a column (`countP_columnLine`).  Hence the
annotation of an override takes one row exactly if the override has no break, which
`ColumnRows` says of the unit of a contribution.
-/

namespace AuditAspects

namespace Text

/-! ## Rows -/

/-- A character ends a row. -/
def endsRow (c : Char) : Bool := c = '\n' || c = '\r'

/-- The rows of a text. -/
def rows (cs : List Char) : List (List Char) := cs.splitOnP endsRow

/-- The rows of lines that stand one below the other. -/
def rowsOf (lines : List String) : List (List Char) := lines.flatMap fun line => rows line.toList

/-- A line feed ends a row. -/
theorem rows_append_cons (cs ds : List Char) : rows (cs ++ '\n' :: ds) = rows cs ++ rows ds :=
  List.splitOnP_append_cons cs ds rfl

/-- A text has one row more than it has breaks. -/
theorem length_rows (cs : List Char) : (rows cs).length = cs.countP endsRow + 1 := by
  induction cs with
  | nil => rfl
  | cons c cs ih =>
      rw [rows, List.splitOnP_cons_eq_if_modifyHead, List.countP_cons]
      split
      · rw [List.length_cons, ← rows, ih]
      · rw [List.length_modifyHead, ← rows, ih, Nat.add_zero]

/-- A text is one row exactly if nothing in it ends a row. -/
theorem length_rows_eq_one_iff {cs : List Char} :
    (rows cs).length = 1 ↔ '\n' ∉ cs ∧ '\r' ∉ cs := by
  have hends : ∀ c, ¬endsRow c = true ↔ c ≠ '\n' ∧ c ≠ '\r' := by
    intro c
    simp [endsRow]
  rw [length_rows, Nat.add_eq_right, List.countP_eq_zero]
  simp only [hends, imp_and, forall_and]
  rw [List.forall_mem_ne', List.forall_mem_ne']

/-- Lines that are ended by line feeds are cut into rows one by one. -/
theorem rows_ofLines_append (lines : List String) (rest : List Char) :
    rows (ofLines lines ++ rest) = rowsOf lines ++ rows rest := by
  induction lines with
  | nil => rfl
  | cons line lines ih =>
      rw [ofLines_cons, List.append_assoc, List.cons_append, rows_append_cons, ih, rowsOf, rowsOf,
        List.flatMap_cons, List.append_assoc]

end Text

open Text (endsRow rows rowsOf)

/-! ## Breaks of a literal -/

/-- Apart from backslashes and quotes, a literal holds the characters of its text. -/
theorem mem_textLiteral_iff {s : String} {c : Char} (hslash : c ≠ '\\') (hquote : c ≠ '"') :
    c ∈ (textLiteral s).toList ↔ c ∈ s.toList := by
  have hchar : ∀ d, c ∈ escapeChar d ↔ c = d := by
    intro d
    rw [escapeChar]
    split <;> simp [hslash]
  simp [toList_textLiteral, hquote, hchar]

/-- Escaping keeps the breaks as they are. -/
theorem countP_textLiteral (s : String) :
    (textLiteral s).toList.countP endsRow = s.toList.countP endsRow := by
  have hchar : ∀ c, (escapeChar c).countP endsRow = [c].countP endsRow := by
    intro c
    rw [escapeChar]
    split
    · exact List.countP_cons_of_neg (by decide)
    · rfl
  have hescape : ∀ cs : List Char, (cs.flatMap escapeChar).countP endsRow = cs.countP endsRow := by
    intro cs
    induction cs with
    | nil => rfl
    | cons c cs ih =>
        rw [List.flatMap_cons, List.countP_append, hchar, ih, ← List.countP_append,
          List.singleton_append]
  rw [toList_textLiteral, List.countP_cons_of_neg (by decide), List.countP_append, hescape]
  rfl

/-! ## The line of a column -/

/-- The line of a column. -/
def columnLine (n : NameTable) (s : String) : String := indent ++ Annotation.render n (.forColumn s)

/-- Nothing in the line of a column breaks it but its literal. -/
theorem countP_columnLine (n : NameTable) (s : String) :
    (columnLine n s).toList.countP endsRow = s.toList.countP endsRow := by
  have hname : (n.written .column).toList.countP endsRow = 0 := by
    rcases n.written_eq_simpleName_or_name .column with h | h
    · rw [h]
      decide +kernel
    · rw [h]
      decide +kernel
  have hindent : indent.toList.countP endsRow = 0 := by decide
  have hattribute : "name = ".toList.countP endsRow = 0 := by decide
  have hclosing : [')'].countP endsRow = 0 := by decide
  rw [columnLine, toList_columnLine, List.countP_append, List.countP_cons_of_neg (by decide),
    List.countP_append, List.countP_cons_of_neg (by decide), List.countP_append,
    List.countP_append, hindent, hname, hattribute, hclosing, countP_textLiteral]
  omega

/-- The line of a column has one row more than its literal has row ends. -/
theorem length_rows_columnLine (n : NameTable) (s : String) :
    (rows (columnLine n s).toList).length = s.toList.countP endsRow + 1 := by
  rw [Text.length_rows, countP_columnLine]

/-- It is one row exactly if the column has no row end. -/
theorem length_rows_columnLine_eq_one_iff {n : NameTable} {s : String} :
    (rows (columnLine n s).toList).length = 1 ↔ '\n' ∉ s.toList ∧ '\r' ∉ s.toList := by
  rw [length_rows_columnLine, ← Text.length_rows, Text.length_rows_eq_one_iff]

/-! ## Rows of a unit -/

namespace CompanionUnit

variable {u : CompanionUnit}

/-- The rows of a source are those of its lines, with an empty one behind them. -/
theorem rows_render (u : CompanionUnit) : rows u.render.toList = rowsOf u.lines ++ [[]] := by
  have h := Text.rows_ofLines_append u.lines []
  rwa [List.append_nil, ← toList_render] at h

/-- A line takes its rows between those of the lines around it. -/
theorem exists_rows_around {line : String} (h : line ∈ u.lines) : ∃ above below,
    u.lines = above ++ line :: below ∧
    rows u.render.toList = rowsOf above ++ rows line.toList ++ (rowsOf below ++ [[]]) := by
  obtain ⟨above, below, hlines⟩ := List.append_of_mem h
  refine ⟨above, below, hlines, ?_⟩
  rw [rows_render, hlines]
  simp [rowsOf]

theorem mem_memberLines_of_field {f : Field} (hf : f ∈ u.fields) {line : String}
    (h : line ∈ f.lines u.names (u.names.written u.governor)) : line ∈ u.memberLines := by
  refine List.mem_append_left _ (List.mem_append_right _ (List.mem_flatMap.mpr ⟨f, hf, ?_⟩))
  exact List.mem_cons_of_mem _ h

/-- The annotation of a field has a line of its own. -/
theorem mem_lines_of_annotation {f : Field} (hf : f ∈ u.fields) {a : Annotation}
    (ha : a ∈ f.annotations) : indent ++ a.render u.names ∈ u.lines := by
  refine List.mem_append_left _ (List.mem_append_right _ (mem_memberLines_of_field hf ?_))
  exact List.mem_append_left _ (List.mem_map_of_mem ha)

end CompanionUnit

/-! ## The annotations for columns -/

/-- The annotation for a column on the field of a row is that of its column. -/
theorem mem_annotations_column_iff {spec : FieldSpec} (hspec : spec ∈ auditFields)
    {column : Option String} {a : Annotation} :
    a ∈ (spec.field column).annotations ∧ a.tag = .column ↔
      ∃ s, column = some s ∧ a = .forColumn s := by
  have hrole : ∀ row ∈ auditFields, row.role ≠ .column := by decide
  have hprecision : timestampPrecision.tag ≠ .column := by decide
  have hrest : ∀ b ∈ (⟨spec.role, []⟩ : Annotation) ::
      (if spec.temporal then [timestampPrecision] else []), b.tag ≠ .column := by
    intro b hb
    rcases List.mem_cons.mp hb with rfl | hb
    · exact hrole spec hspec
    · split at hb
      · rw [List.mem_singleton.mp hb]
        exact hprecision
      · cases hb
  rw [FieldSpec.field, List.mem_append]
  constructor
  · rintro ⟨ha | ha, htag⟩
    · cases column with
      | none => cases ha
      | some s => exact ⟨s, rfl, List.mem_singleton.mp ha⟩
    · exact absurd htag (hrest a ha)
  · rintro ⟨s, rfl, rfl⟩
    exact ⟨.inl List.mem_cons_self, rfl⟩

/-- A bundle names the overrides that take effect as its columns. -/
theorem exists_forColumn_iff {config : Config} {declared : String → Bool} {s : String} :
    (∃ f ∈ (auditBundle (·.column config) declared).fields, .forColumn s ∈ f.annotations) ↔
      ∃ k, config.columnFor k = some s := by
  constructor
  · rintro ⟨f, hf, ha⟩
    obtain ⟨spec, hspec, rfl⟩ := List.mem_map.mp hf
    obtain ⟨t, hcolumn, ht⟩ := (mem_annotations_column_iff hspec).mp ⟨ha, rfl⟩
    obtain ⟨k, hk⟩ := exists_key_of_mem_auditFields hspec
    cases ht
    exact ⟨k, (FieldSpec.column_of_key hk config).symm.trans hcolumn⟩
  · rintro ⟨k, hk⟩
    obtain ⟨spec, hspec, hkey⟩ := exists_row_of_key k
    rw [← FieldSpec.column_of_key hkey] at hk
    refine ⟨_, List.mem_map_of_mem hspec, ?_⟩
    exact ((mem_annotations_column_iff hspec).mpr ⟨s, hk, rfl⟩).1

/-! ## The columns of a contribution -/

/-- The columns in the source of a unit, under a configuration. -/
structure ColumnRows (config : Config) (u : CompanionUnit) : Prop where
  /-- Every annotation for a column names one, on a field. -/
  only : ∀ a ∈ u.annotations ++ u.fields.flatMap Field.annotations, a.tag = .column →
    ∃ s, a = .forColumn s ∧ ∃ f ∈ u.fields, a ∈ f.annotations
  /-- The columns that are named are the overrides that take effect, exactly as given. -/
  named_iff : ∀ s, (∃ f ∈ u.fields, .forColumn s ∈ f.annotations) ↔
    ∃ k, config.override? k = some s ∧ Text.isBlank s = false
  /-- The rows of the source hold those of each column, one more than its name has
  breaks. -/
  rows_eq : ∀ f ∈ u.fields, ∀ s, .forColumn s ∈ f.annotations → ∃ above below,
    u.lines = above ++ columnLine u.names s :: below ∧
    rows u.render.toList =
      rowsOf above ++ rows (columnLine u.names s).toList ++ (rowsOf below ++ [[]]) ∧
    (rows (columnLine u.names s).toList).length = s.toList.countP endsRow + 1
  /-- Every column takes one row exactly if no override that takes effect has a break. -/
  one_row_iff :
    (∀ f ∈ u.fields, ∀ s, .forColumn s ∈ f.annotations →
      (rows (columnLine u.names s).toList).length = 1) ↔
    ∀ k s, config.columnFor k = some s → '\n' ∉ s.toList ∧ '\r' ∉ s.toList

/-- The rows of a unit of auditing are told by the columns. -/
theorem columnRows_ofBundle (identifier : String) (aspect governor : TypeName) (config : Config)
    (declared : String → Bool) :
    ColumnRows config (Contribution.ofBundle identifier aspect governor
      (auditBundle (·.column config) declared)).unit := by
  have hannotations : (Contribution.ofBundle identifier aspect governor
      (auditBundle (·.column config) declared)).unit.annotations = [auditListener] := rfl
  have hfields : (Contribution.ofBundle identifier aspect governor
      (auditBundle (·.column config) declared)).unit.fields =
        (auditBundle (·.column config) declared).fields := rfl
  generalize (Contribution.ofBundle identifier aspect governor
    (auditBundle (·.column config) declared)).unit = u at *
  have hnamed : ∀ s, (∃ f ∈ u.fields, .forColumn s ∈ f.annotations) ↔
      ∃ k, config.columnFor k = some s := by
    intro s
    rw [hfields]
    exact exists_forColumn_iff
  constructor
  case only =>
    intro a ha htag
    rw [hannotations, List.singleton_append, List.mem_cons, List.mem_flatMap] at ha
    rcases ha with rfl | ⟨f, hf, ha⟩
    · cases htag
    · obtain ⟨spec, hspec, rfl⟩ := List.mem_map.mp (hfields ▸ hf)
      obtain ⟨s, -, rfl⟩ := (mem_annotations_column_iff hspec).mp ⟨ha, htag⟩
      exact ⟨s, rfl, _, hf, ha⟩
  case named_iff =>
    intro s
    rw [hnamed]
    simp only [Config.columnFor_eq_some_iff]
  case rows_eq =>
    intro f hf s ha
    obtain ⟨above, below, hlines, hrender⟩ :=
      CompanionUnit.exists_rows_around (CompanionUnit.mem_lines_of_annotation hf ha)
    exact ⟨above, below, hlines, hrender, length_rows_columnLine _ s⟩
  case one_row_iff =>
    constructor
    · intro hall k s hk
      obtain ⟨f, hf, ha⟩ := (hnamed s).mpr ⟨k, hk⟩
      exact length_rows_columnLine_eq_one_iff.mp (hall f hf s ha)
    · intro hall f hf s ha
      obtain ⟨k, hk⟩ := (hnamed s).mp ⟨f, hf, ha⟩
      exact length_rows_columnLine_eq_one_iff.mpr (hall k s hk)

/-- A literal breaks just where its text does.  Whatever is offered, a contribution either
fails because of its path or as its production does, or names the overrides that take effect
on rows of their own, each on one row exactly if it has no break. -/
theorem Contribution.columnRows_forType (type : TypeName) (target : Offered Target)
    (config : Offered Config) (path : LogicalPath) (log : List Record) :
    (∀ (n : NameTable) (s : String) (c : Char), Text.endsRow c →
      (c ∈ ((AttributeValue.text s).render n).toList ↔ c ∈ s.toList)) ∧
    ((path.Unreadable ∧ (forType type target config path).result log =
        .error (.identifierInvalid (Identifier.create type path))) ∨
      (∃ f, (produce target config).result log = .error f ∧
        (forType type target config path).result log = .error f) ∨
      ∃ cfg c, config = .proper cfg ∧ (forType type target config path).result log = .ok c ∧
        ColumnRows cfg c.unit) := by
  constructor
  · intro n s c hc
    refine mem_textLiteral_iff ?_ ?_
    · rintro rfl
      cases hc
    · rintro rfl
      cases hc
  by_cases hreadable : path.Unreadable
  · rw [forType_of_unreadable hreadable]
    exact .inl ⟨hreadable, rfl⟩
  obtain ⟨governor, hgovernor, -⟩ := Identifier.exists_type_create type hreadable
  rw [result_forType_of_governor hgovernor]
  cases hp : (produce target config).result log with
  | error f => exact .inr (.inl ⟨f, rfl, rfl⟩)
  | ok b =>
      obtain ⟨t, cfg, -, rfl, rfl⟩ := produce_eq_ok hp
      exact .inr (.inr ⟨cfg, _, rfl, rfl, columnRows_ofBundle _ _ _ cfg _⟩)

/-- Without a break, the override takes one row. -/
theorem Contribution.columnRows_createdAt :
    ∃ c, (forType ⟨"com.example.domain.Customer", by decide⟩ (.proper (.ofNames []))
        (.proper { createdDateColumn := some "created_at" }) {}).result [] = .ok c ∧
      ∃ f ∈ c.unit.fields, .forColumn "created_at" ∈ f.annotations ∧
        (rows (columnLine c.unit.names "created_at").toList).length = 1 := by
  rcases (columnRows_forType ⟨"com.example.domain.Customer", by decide⟩ (.proper (.ofNames []))
      (.proper { createdDateColumn := some "created_at" }) {} []).2 with
    ⟨hpath, -⟩ | ⟨f, hf, -⟩ | ⟨cfg, c, hcfg, hc, hrows⟩
  · exact absurd hpath (by decide +kernel)
  · exact absurd hf (by
      rw [result_produce, Target.firstFault_eq_none_iff.mpr fun name _ => ⟨_, rfl⟩]
      exact nofun)
  · cases hcfg
    obtain ⟨f, hf, ha⟩ := (hrows.named_iff "created_at").mpr
      ⟨.createdDateColumn, rfl, by decide +kernel⟩
    obtain ⟨-, -, -, -, hlength⟩ := hrows.rows_eq f hf "created_at" ha
    exact ⟨c, hc, f, hf, ha, hlength.trans (by decide +kernel)⟩

/-- An override with a line feed takes two rows, though the governor has no break. -/
theorem Contribution.rows_brokenColumn :
    Config.columnFor { createdDateColumn := some "created\nat" } .createdDateColumn =
        some "created\nat" ∧
      '\n' ∈ ((AttributeValue.text "created\nat").render ⟨"com.example.domain", []⟩).toList ∧
      ∃ c, (forType ⟨"com.example.domain.Customer", by decide⟩ (.proper (.ofNames []))
          (.proper { createdDateColumn := some "created\nat" }) {}).result [] = .ok c ∧
        c.governor.name = "com.example.domain.Customer" ∧
        (∃ f ∈ c.unit.fields, .forColumn "created\nat" ∈ f.annotations) ∧
        ∃ above below, rows c.unit.render.toList =
          above ++ ["    @Column(name = \"created".toList, "at\")".toList] ++ below := by
  have hpath : LogicalPath.name {} ≠ "" ∧ '?' ∉ (LogicalPath.name {}).toList := by decide +kernel
  have hanswers : (Target.ofNames []).Answers auditGetters := fun name _ => ⟨_, rfl⟩
  have hresult := result_forType_of_answers ⟨"com.example.domain.Customer", by decide⟩
    { createdDateColumn := some "created\nat" } hpath.1 hpath.2 hanswers []
  generalize hc : ofBundle _ _ _ _ = c at hresult
  have hrows : ColumnRows { createdDateColumn := some "created\nat" } c.unit :=
    hc ▸ columnRows_ofBundle _ _ _ _ _
  have hname : c.unit.names.written .column = "Column" := by
    rw [← hc, agree_ofBundle _ _ _ _ .column (by decide +kernel), written_auditNames (by decide)]
    decide +kernel
  have hline : rows (columnLine c.unit.names "created\nat").toList =
      ["    @Column(name = \"created".toList, "at\")".toList] := by
    rw [columnLine, toList_columnLine, hname, toList_textLiteral]
    decide +kernel
  obtain ⟨f, hf, ha⟩ := (hrows.named_iff "created\nat").mpr
    ⟨.createdDateColumn, rfl, by decide +kernel⟩
  obtain ⟨above, below, -, hrender, -⟩ := hrows.rows_eq f hf "created\nat" ha
  refine ⟨by decide +kernel, by decide +kernel, c, hresult, by rw [← hc]; rfl, ⟨f, hf, ha⟩,
    rowsOf above, rowsOf below ++ [[]], ?_⟩
  rw [hrender, hline]

end AuditAspects
