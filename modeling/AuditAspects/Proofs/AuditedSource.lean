import AuditAspects.Proofs.AuditedUnit
import Mathlib.Data.List.TFAE
import Mathlib.Tactic.TFAE

/-!
# The source of a contribution

*One table.*  The source writes every type by its name beside the governor, whatever
the bundle, so all sources of one governor can be read with one table (`auditNames`,
`toList_render_ofBundle`).

*Reading back.*  Imports, fields and getters can be told apart piece by piece: a field
says whether it has a column and which (`field_append_inj`), and a getter says which
row it belongs to (`getter_append_inj`).  Hence the source determines the columns and
the getters (`inputs_of_render_eq`).
-/

namespace AuditAspects

open Text (ofLines)

/-! ## One table for all sources -/

/-- The names of the audit types in the sources of a governor. -/
def auditNames (governor : TypeName) : NameTable :=
  NameTable.forUnit governor.aspect governor
    (NameTable.forUnit governor.aspect governor auditTypes).imports

/-- In the table of the audit types, types are written beside the governor. -/
theorem written_auditNames {governor t : TypeName} (ht : t ∈ governor :: auditTypes) :
    (auditNames governor).written t = t.beside governor :=
  NameTable.written_audit (fun _ hu => hu) ht

theorem TypeName.beside_self (governor : TypeName) :
    governor.beside governor = governor.simpleName :=
  if_neg fun h => h.2 rfl

namespace Contribution

variable (identifier : String) (governor : TypeName) (columns : FieldSpec → Option String)
  (declared : String → Bool)

/-- The table of a unit agrees with that of the audit types. -/
theorem agree_ofBundle :
    (ofBundle identifier governor.aspect governor
        (auditBundle columns declared)).unit.names.Agree (auditNames governor)
      (governor :: (auditBundle columns declared).referencedTypes) := by
  intro t ht
  have hmem : t ∈ governor :: auditTypes := by
    rcases List.mem_cons.mp ht with rfl | ht
    · exact List.mem_cons_self
    · exact List.mem_cons_of_mem _ (mem_auditTypes ht)
  rw [written_auditNames hmem]
  exact written_ofBundle identifier governor columns declared ht

/-- The imports in a source are audit types. -/
theorem mem_auditTypes_of_mem_imports {t : TypeName}
    (h : t ∈ (ofBundle identifier governor.aspect governor
      (auditBundle columns declared)).unit.names.imports) : t ∈ auditTypes := by
  have himports : ∀ u ∈ (ofBundle identifier governor.aspect governor
      (auditBundle columns declared)).unit.imports, u ∈ auditTypes := by
    intro u hu
    have := ((namesTypes_ofBundle identifier governor columns declared).mem_imports u).mp hu
    exact mem_auditTypes this.1
  exact himports t ((NameTable.mem_imports_audit himports).mp h).1

/-- The first lines of every source of a governor. -/
def opening : List String :=
  CompanionUnit.banner ++ CompanionUnit.packageLines governor.aspect.package

/-- The line that opens an aspect. -/
def aspectLine : List String := ["privileged aspect " ++ governor.aspect.simpleName ++ " \x7b"]

/-- The source of a contribution, if a table agrees with the names of its unit. -/
theorem lines_ofBundle {b : Bundle} {n : NameTable}
    (h : (ofBundle identifier governor.aspect governor b).unit.names.Agree n
      (governor :: b.referencedTypes)) :
    (ofBundle identifier governor.aspect governor b).unit.lines =
      opening governor ++
        (CompanionUnit.importLines
            (ofBundle identifier governor.aspect governor b).unit.names.imports ++
          (aspectLine governor ++ (b.lines n (n.written governor) ++ ["", "\x7d"]))) := by
  have hmembers : (ofBundle identifier governor.aspect governor b).unit.memberLines =
      b.lines n (n.written governor) := by
    rw [CompanionUnit.memberLines_of_holds (holds_ofBundle _ _ _ _)]
    exact Bundle.lines_congr h
  have haspect : (ofBundle identifier governor.aspect governor b).unit.aspect = governor.aspect :=
    rfl
  rw [CompanionUnit.lines, hmembers, haspect, opening, aspectLine, List.append_assoc,
    List.append_assoc, List.append_assoc, List.append_assoc]

/-- The source of a contribution, written with the table of its governor. -/
theorem toList_render_ofBundle :
    (ofBundle identifier governor.aspect governor
        (auditBundle columns declared)).unit.render.toList =
      ofLines (opening governor) ++
        (ofLines (CompanionUnit.importLines (ofBundle identifier governor.aspect governor
          (auditBundle columns declared)).unit.names.imports) ++
        ofLines (aspectLine governor ++
          ((auditBundle columns declared).lines (auditNames governor) governor.simpleName ++
            ["", "\x7d"]))) := by
  rw [CompanionUnit.toList_render, lines_ofBundle _ _ (agree_ofBundle _ _ _ _),
    Text.ofLines_append, Text.ofLines_append, written_auditNames List.mem_cons_self,
    TypeName.beside_self]

end Contribution

/-! ## Reading the imports -/

/-- The characters of a line that gives a name after a keyword. -/
def clause (keyword name : String) : List Char := keyword.toList ++ (name.toList ++ [';', '\n'])

/-- A clause ends at its first semicolon. -/
theorem clause_append_inj {keyword a b : String} {r s : List Char} (ha : ';' ∉ a.toList)
    (hb : ';' ∉ b.toList) (h : clause keyword a ++ r = clause keyword b ++ s) :
    a = b ∧ r = s := by
  simp only [clause, List.append_assoc, List.append_cancel_left_eq, List.cons_append,
    List.nil_append] at h
  obtain ⟨hname, -, hrest⟩ := Text.append_stop_inj (p := (· = ';'))
    (fun x hx e => ha (e ▸ hx)) (fun x hx e => hb (e ▸ hx)) rfl rfl h
  exact ⟨String.toList_inj.mp hname, (List.cons.inj hrest).2⟩

theorem ofLines_importLines (imports : List TypeName) (r : List Char) :
    ofLines (CompanionUnit.importLines imports) ++ r =
      imports.flatMap (fun t => clause "import " t.name) ++ if imports = [] then r else '\n' :: r := by
  rw [CompanionUnit.importLines]
  cases imports with
  | nil => rfl
  | cons t ts =>
      rw [if_neg (List.cons_ne_nil t ts), if_neg (List.cons_ne_nil t ts), Text.ofLines_append,
        Text.ofLines, List.flatMap_map, List.append_assoc]
      simp [clause]

/-- The imports end at a line that does not start as they do. -/
theorem importLines_append_inj {is js : List TypeName} {r s : List Char}
    (his : ∀ t ∈ is, ';' ∉ t.name.toList) (hjs : ∀ t ∈ js, ';' ∉ t.name.toList)
    (hr : r.head? = some 'p') (hs : s.head? = some 'p')
    (h : ofLines (CompanionUnit.importLines is) ++ r =
      ofLines (CompanionUnit.importLines js) ++ s) : is = js ∧ r = s := by
  rw [ofLines_importLines, ofLines_importLines] at h
  have hfollows : ∀ (ts : List TypeName) (x : List Char), x.head? = some 'p' →
      (if ts = [] then x else '\n' :: x).head? ≠ some 'i' := by
    intro ts x hx
    split
    · rw [hx]
      decide
    · rw [List.head?_cons]
      decide
  have hblock : ∀ (t u : TypeName) (x y : List Char), ';' ∉ t.name.toList →
      ';' ∉ u.name.toList → clause "import " t.name ++ x = clause "import " u.name ++ y →
        t = u ∧ x = y := by
    intro t u x y ht hu heq
    obtain ⟨hname, hrest⟩ := clause_append_inj ht hu heq
    exact ⟨TypeName.ext_name hname, hrest⟩
  have hstart : ∀ (t : TypeName) (x y : List Char), ';' ∉ t.name.toList →
      y.head? ≠ some 'i' → clause "import " t.name ++ x ≠ y := by
    rintro t x y - hy rfl
    exact hy rfl
  obtain ⟨rfl, hrest⟩ := Text.flatMap_append_inj (P := fun t => ';' ∉ t.name.toList)
    hblock hstart his hjs (hfollows is r hr) (hfollows js s hs) h
  refine ⟨rfl, ?_⟩
  split at hrest
  · exact hrest
  · exact (List.cons.inj hrest).2

/-! ## Reading the fields -/

/-- The name of an audit type beside a governor is one word. -/
theorem stop_not_mem_auditNames {governor t : TypeName} (ht : t ∈ auditTypes) :
    ∀ c ∈ ((auditNames governor).written t).toList, c ∉ ['\n', ' ', '('] := by
  intro c hc hstop
  rw [written_auditNames (List.mem_cons_of_mem _ ht)] at hc
  have hletter : c.isAlpha ∨ c = '.' :=
    (name_of_mem_auditTypes ht).2 c (TypeName.mem_name_of_mem_beside hc)
  simp only [List.mem_cons, List.not_mem_nil, or_false] at hstop
  rcases hstop with rfl | rfl | rfl
  · exact absurd hletter (by decide)
  · exact absurd hletter (by decide)
  · exact absurd hletter (by decide)

/-- The lines of a field are those without a column, with the column's line above. -/
theorem lines_field (n : NameTable) (governor : String) (spec : FieldSpec)
    (column : Option String) :
    (spec.field column).lines n governor =
      (column.map fun c => indent ++ Annotation.render n (.forColumn c)).toList ++
        (spec.field none).lines n governor := by
  cases column with
  | none => rfl
  | some c => rfl

/-- The first line of a field without a column is its role. -/
theorem exists_lines_field_none (n : NameTable) (governor : String) (spec : FieldSpec) :
    ∃ rest, (spec.field none).lines n governor =
      (indent ++ Annotation.render n ⟨spec.role, []⟩) :: rest :=
  ⟨_, rfl⟩

theorem toList_columnLine (n : NameTable) (c : String) :
    (indent ++ Annotation.render n (.forColumn c)).toList =
      indent.toList ++ '@' :: ((n.written .column).toList ++
        '(' :: ("name = ".toList ++ ((textLiteral c).toList ++ [')']))) := by
  simp [AnnotationTag.type, renderAttributes, soleAttribute, Attribute.render,
    AttributeValue.render, Annotation.render, Annotation.forColumn]

theorem toList_roleLine (n : NameTable) (role : AnnotationTag) :
    (indent ++ Annotation.render n ⟨role, []⟩).toList =
      indent.toList ++ '@' :: (n.written role.type).toList := by
  simp [renderAttributes, Annotation.render]

/-- A field says whether it has a column, and which. -/
theorem field_append_inj {governor : TypeName} {spec : FieldSpec} (hspec : spec ∈ auditFields)
    {name : String} {column column' : Option String} {r s : List Char}
    (h : ofLines ((spec.field column).lines (auditNames governor) name) ++ r =
      ofLines ((spec.field column').lines (auditNames governor) name) ++ s) :
    column = column' ∧ r = s := by
  have hcolumn : ∀ c ∈ ((auditNames governor).written .column).toList, c ∉ ['\n', ' ', '('] :=
    stop_not_mem_auditNames (by decide)
  have hrole : ∀ c ∈ ((auditNames governor).written spec.role.type).toList,
      c ∉ ['\n', ' ', '('] :=
    stop_not_mem_auditNames (mem_auditTypes_of_mem_field hspec none
      (by simp [Field.referencedTypes, FieldSpec.field, Annotation.referencedTypes]))
  -- After its name an annotation goes on with a bracket or ends the line.
  have hne : ∀ (c : String) (x y : List Char),
      ofLines ((spec.field (some c)).lines (auditNames governor) name) ++ x ≠
        ofLines ((spec.field none).lines (auditNames governor) name) ++ y := by
    intro c x y heq
    obtain ⟨rest, hrest⟩ := exists_lines_field_none (auditNames governor) name spec
    rw [lines_field _ _ _ (some c), hrest] at heq
    simp only [Option.map_some, Option.toList_some, List.cons_append, List.nil_append,
      Text.ofLines_cons, toList_columnLine, toList_roleLine, List.append_assoc,
      List.append_cancel_left_eq, List.cons.injEq, true_and] at heq
    obtain ⟨-, hstop, -⟩ := Text.append_stop_inj (p := (· ∈ ['\n', ' ', '('])) hcolumn hrole
      (by decide) (by decide) heq
    exact absurd hstop (by decide)
  cases column with
  | none =>
      cases column' with
      | none => exact ⟨rfl, List.append_cancel_left h⟩
      | some d => exact absurd h.symm (hne d s r)
  | some c =>
      cases column' with
      | none => exact absurd h (hne c r s)
      | some d =>
          rw [lines_field _ _ _ (some c), lines_field _ _ _ (some d)] at h
          simp only [Option.map_some, Option.toList_some, List.cons_append, List.nil_append,
            Text.ofLines_cons, toList_columnLine, List.append_assoc,
            List.append_cancel_left_eq, List.cons.injEq, true_and] at h
          obtain ⟨hcd, hrest⟩ := textLiteral_append_inj h
          refine ⟨congrArg some hcd, ?_⟩
          simpa using hrest

/-- A row of fields says the column of each. -/
theorem fields_append_inj {governor : TypeName} {specs : List FieldSpec}
    (hspecs : ∀ spec ∈ specs, spec ∈ auditFields) {name : String}
    {columns columns' : FieldSpec → Option String} {r s : List Char}
    (h : ofLines ((specs.map fun spec => spec.field (columns spec)).flatMap
          fun f => "" :: f.lines (auditNames governor) name) ++ r =
      ofLines ((specs.map fun spec => spec.field (columns' spec)).flatMap
          fun f => "" :: f.lines (auditNames governor) name) ++ s) :
    (∀ spec ∈ specs, columns spec = columns' spec) ∧ r = s := by
  induction specs with
  | nil => exact ⟨by simp, h⟩
  | cons spec specs ih =>
      simp only [List.map_cons, List.flatMap_cons, Text.ofLines_append, Text.ofLines_cons,
        List.append_assoc, List.append_cancel_left_eq, List.cons_append, List.cons.injEq,
        true_and] at h
      obtain ⟨hspec, hrest⟩ := field_append_inj (hspecs spec List.mem_cons_self) h
      obtain ⟨hall, hrs⟩ := ih (fun s hs => hspecs s (List.mem_cons_of_mem _ hs)) hrest
      exact ⟨List.forall_mem_cons.mpr ⟨hspec, hall⟩, hrs⟩

/-! ## Reading the getters -/

theorem exists_lines_getter (n : NameTable) (governor : String) (spec : FieldSpec) :
    ∃ rest, spec.getter.lines n governor =
      (indent ++ (Modifiers.only .publicAccess).keywords ++ " " ++ n.written spec.type ++ " " ++
        governor ++ "." ++ spec.getterName ++ "() \x7b") :: rest :=
  ⟨_, rfl⟩

theorem toList_getterLine (keywords type governor name : String) :
    (indent ++ keywords ++ " " ++ type ++ " " ++ governor ++ "." ++ name ++ "() \x7b").toList =
      (indent ++ keywords ++ " ").toList ++ (type.toList ++
        ' ' :: ((governor ++ ".").toList ++ (name.toList ++ '(' :: ") \x7b".toList))) := by
  simp

/-- A getter says which row it belongs to. -/
theorem getter_append_inj {governor : TypeName} {spec spec' : FieldSpec}
    (hspec : spec ∈ auditFields) (hspec' : spec' ∈ auditFields) {name : String}
    {r s : List Char}
    (h : ofLines (spec.getter.lines (auditNames governor) name) ++ r =
      ofLines (spec'.getter.lines (auditNames governor) name) ++ s) :
    spec = spec' ∧ r = s := by
  have htype : ∀ row ∈ auditFields, ∀ c ∈ ((auditNames governor).written row.type).toList,
      c ∉ ['\n', ' ', '('] :=
    fun row hrow => stop_not_mem_auditNames
      (mem_auditTypes_of_mem_field hrow none List.mem_cons_self)
  have hbracket : ∀ row ∈ auditFields, '(' ∉ row.getterName.toList := by decide +kernel
  have hname : spec.getterName = spec'.getterName := by
    obtain ⟨rest, hrest⟩ := exists_lines_getter (auditNames governor) name spec
    obtain ⟨rest', hrest'⟩ := exists_lines_getter (auditNames governor) name spec'
    rw [hrest, hrest'] at h
    simp only [Text.ofLines_cons, toList_getterLine, List.append_assoc, List.cons_append,
      List.append_cancel_left_eq] at h
    obtain ⟨-, -, h⟩ := Text.append_stop_inj (p := (· ∈ ['\n', ' ', '(']))
      (htype spec hspec) (htype spec' hspec') (by decide) (by decide) h
    rw [List.append_cancel_left_eq] at h
    obtain ⟨hname, -, -⟩ := Text.append_stop_inj (p := (· = '('))
      (fun c hc e => hbracket spec hspec (e ▸ hc))
      (fun c hc e => hbracket spec' hspec' (e ▸ hc)) rfl rfl h
    exact String.toList_inj.mp hname
  obtain rfl := List.inj_on_of_nodup_map auditGetters_nodup hspec hspec' hname
  exact ⟨rfl, List.append_cancel_left h⟩

/-- A row of getters, up to the end of the source, says whose they are. -/
theorem getters_inj {governor : TypeName} {specs specs' : List FieldSpec}
    (hspecs : ∀ spec ∈ specs, spec ∈ auditFields)
    (hspecs' : ∀ spec ∈ specs', spec ∈ auditFields) {name : String}
    (h : ofLines ((specs.map FieldSpec.getter).flatMap
          fun f => "" :: f.lines (auditNames governor) name) ++ ofLines ["", "\x7d"] =
      ofLines ((specs'.map FieldSpec.getter).flatMap
          fun f => "" :: f.lines (auditNames governor) name) ++ ofLines ["", "\x7d"]) :
    specs = specs' := by
  rw [Text.ofLines_flatMap, Text.ofLines_flatMap, List.flatMap_map, List.flatMap_map] at h
  have hblock : ∀ (spec spec' : FieldSpec) (r s : List Char), spec ∈ auditFields →
      spec' ∈ auditFields →
      ofLines ("" :: spec.getter.lines (auditNames governor) name) ++ r =
        ofLines ("" :: spec'.getter.lines (auditNames governor) name) ++ s →
      spec = spec' ∧ r = s := by
    intro spec spec' r s hspec hspec' heq
    simp only [Text.ofLines_cons, String.toList_empty, List.nil_append, List.cons_append,
      List.cons.injEq, true_and] at heq
    exact getter_append_inj hspec hspec' heq
  have hend : ∀ (spec : FieldSpec) (r s : List Char), spec ∈ auditFields →
      s = ofLines ["", "\x7d"] →
      ofLines ("" :: spec.getter.lines (auditNames governor) name) ++ r ≠ s := by
    rintro spec r s - rfl heq
    obtain ⟨rest, hrest⟩ := exists_lines_getter (auditNames governor) name spec
    rw [hrest] at heq
    simp [indent] at heq
  exact (Text.flatMap_append_inj hblock hend hspecs hspecs' rfl rfl h).1

/-! ## Reading the inputs -/

/-- The source of a contribution determines its columns and its getters. -/
theorem Contribution.inputs_of_render_eq {identifier identifier' : String} {governor : TypeName}
    {columns columns' : FieldSpec → Option String} {declared declared' : String → Bool}
    (h : (ofBundle identifier governor.aspect governor (auditBundle columns declared)).unit.render =
      (ofBundle identifier' governor.aspect governor
        (auditBundle columns' declared')).unit.render) :
    (∀ spec ∈ auditFields, columns spec = columns' spec) ∧
      ∀ spec ∈ auditFields, declared spec.getterName = declared' spec.getterName := by
  have himports : ∀ (i : String) (c : FieldSpec → Option String) (d : String → Bool),
      ∀ t ∈ (ofBundle i governor.aspect governor (auditBundle c d)).unit.names.imports,
        ';' ∉ t.name.toList := by
    intro i c d t ht
    have hmem : t ∈ auditTypes := mem_auditTypes_of_mem_imports i governor c d ht
    exact fun h => absurd ((name_of_mem_auditTypes hmem).2 ';' h) (by decide)
  have hopens : ∀ rest : List Char, (ofLines (aspectLine governor) ++ rest).head? = some 'p' := by
    intro rest
    simp [aspectLine]
  have htext := congrArg String.toList h
  simp only [toList_render_ofBundle, Text.ofLines_append (aspectLine governor),
    List.append_cancel_left_eq] at htext
  obtain ⟨-, htext⟩ := importLines_append_inj (himports identifier columns declared)
    (himports identifier' columns' declared') (hopens _) (hopens _) htext
  simp only [Bundle.lines, auditBundle, Text.ofLines_append, List.append_assoc,
    List.append_cancel_left_eq] at htext
  obtain ⟨hcolumns, htext⟩ := fields_append_inj (fun _ hspec => hspec) htext
  have hgetters := getters_inj (fun _ hspec => List.mem_of_mem_filter hspec)
    (fun _ hspec => List.mem_of_mem_filter hspec) htext
  refine ⟨hcolumns, fun spec hspec => ?_⟩
  have hmem : spec ∈ auditFields.filter (fun row => !declared row.getterName) ↔
      spec ∈ auditFields.filter (fun row => !declared' row.getterName) := by
    rw [hgetters]
  simpa [List.mem_filter, hspec] using hmem

/-! ## The effective inputs -/

theorem exists_row_of_key (k : ConfigKey) : ∃ spec ∈ auditFields, spec.key = k.name := by
  cases k with
  | createdDateColumn => exact ⟨_, List.mem_cons_self, rfl⟩
  | modifiedDateColumn => exact ⟨_, List.mem_cons_of_mem _ List.mem_cons_self, rfl⟩
  | createdByColumn =>
      exact ⟨_, List.mem_cons_of_mem _ (List.mem_cons_of_mem _ List.mem_cons_self), rfl⟩
  | modifiedByColumn => exact ⟨_, List.mem_of_getLast? rfl, rfl⟩

theorem FieldSpec.column_of_key {spec : FieldSpec} {k : ConfigKey} (h : spec.key = k.name)
    (config : Config) : spec.column config = config.columnFor k := by
  rw [FieldSpec.column, h, ConfigKey.ofName?_name]
  rfl

/-- The rows have the same columns exactly when the keys have the same overrides. -/
theorem columns_eq_iff {c c' : Config} :
    (∀ spec ∈ auditFields, spec.column c = spec.column c') ↔
      ∀ k, c.columnFor k = c'.columnFor k := by
  constructor
  · intro h k
    obtain ⟨spec, hspec, hkey⟩ := exists_row_of_key k
    rw [← FieldSpec.column_of_key hkey, ← FieldSpec.column_of_key hkey]
    exact h spec hspec
  · intro h spec hspec
    obtain ⟨k, hkey⟩ := exists_key_of_mem_auditFields hspec
    rw [FieldSpec.column_of_key hkey, FieldSpec.column_of_key hkey]
    exact h k

/-- A bundle depends only on the columns of its rows and on which getters are declared. -/
theorem auditBundle_congr {columns columns' : FieldSpec → Option String}
    {declared declared' : String → Bool}
    (hcolumns : ∀ spec ∈ auditFields, columns spec = columns' spec)
    (hdeclared : ∀ spec ∈ auditFields, declared spec.getterName = declared' spec.getterName) :
    auditBundle columns declared = auditBundle columns' declared' := by
  have hfields : auditFields.map (fun spec => spec.field (columns spec)) =
      auditFields.map (fun spec => spec.field (columns' spec)) := by
    refine List.map_congr_left fun spec hspec => ?_
    rw [hcolumns spec hspec]
  have hrows : auditFields.filter (fun spec => !declared spec.getterName) =
      auditFields.filter (fun spec => !declared' spec.getterName) := by
    refine List.filter_congr fun spec hspec => ?_
    rw [hdeclared spec hspec]
  rw [auditBundle, auditBundle, hfields, hrows]

/-- The identifier does not appear in the source. -/
theorem Contribution.render_ofBundle (identifier identifier' : String)
    (aspect governor : TypeName) (b : Bundle) :
    (ofBundle identifier aspect governor b).unit.render =
      (ofBundle identifier' aspect governor b).unit.render := rfl

/-- The contributions of one type from two targets that answer and two configurations,
on any two paths that can be read back: equal bundles, equal sources and equal
effective inputs come to the same. -/
theorem Contribution.source_records_inputs (type : TypeName) (target₁ target₂ : Target)
    (config₁ config₂ : Config) (path₁ path₂ : LogicalPath)
    (hne₁ : path₁.name ≠ "") (hne₂ : path₂.name ≠ "")
    (hsep₁ : '?' ∉ path₁.name.toList) (hsep₂ : '?' ∉ path₂.name.toList)
    (hanswers₁ : target₁.Answers auditGetters) (hanswers₂ : target₂.Answers auditGetters)
    (log₁ log₂ : List Record) :
    ∃ c₁ c₂,
      (forType type (.proper target₁) (.proper config₁) path₁).result log₁ = .ok c₁ ∧
      (forType type (.proper target₂) (.proper config₂) path₂).result log₂ = .ok c₂ ∧
      (produce (.proper target₁) (.proper config₁)).result log₁ = .ok c₁.bundle ∧
      (produce (.proper target₂) (.proper config₂)).result log₂ = .ok c₂.bundle ∧
      [c₁.bundle = c₂.bundle,
        c₁.unit.render = c₂.unit.render,
        (∀ k, config₁.columnFor k = config₂.columnFor k) ∧
          ∀ name ∈ auditGetters, target₁.declares name = target₂.declares name].TFAE := by
  have hproduced : ∀ (target : Target) (config : Config) (log : List Record),
      target.Answers auditGetters → (produce (.proper target) (.proper config)).result log =
        .ok (auditBundle (·.column config) target.affirms) := by
    intro target config log h
    rw [result_produce, Target.firstFault_eq_none_iff.mpr h]
  have haffirms : ∀ name ∈ auditGetters,
      (target₁.declares name = target₂.declares name ↔
        target₁.affirms name = target₂.affirms name) := by
    intro name hname
    rw [hanswers₁.declares_eq hname, hanswers₂.declares_eq hname, Except.ok.injEq]
  refine ⟨_, _, result_forType_of_answers type config₁ hne₁ hsep₁ hanswers₁ log₁,
    result_forType_of_answers type config₂ hne₂ hsep₂ hanswers₂ log₂,
    hproduced target₁ config₁ log₁ hanswers₁, hproduced target₂ config₂ log₂ hanswers₂, ?_⟩
  tfae_have 1 → 2 := by
    intro h
    have hbundle : auditBundle (·.column config₁) target₁.affirms =
        auditBundle (·.column config₂) target₂.affirms := h
    rw [hbundle]
    exact render_ofBundle _ _ _ _ _
  tfae_have 2 → 3 := by
    intro h
    obtain ⟨hcolumns, hdeclared⟩ := inputs_of_render_eq h
    refine ⟨columns_eq_iff.mp hcolumns, fun name hname => (haffirms name hname).mpr ?_⟩
    obtain ⟨spec, hspec, rfl⟩ := List.mem_map.mp hname
    exact hdeclared spec hspec
  tfae_have 3 → 1 := by
    rintro ⟨hcolumns, hdeclared⟩
    refine auditBundle_congr (columns_eq_iff.mpr hcolumns) fun spec hspec => ?_
    have hname : spec.getterName ∈ auditGetters := List.mem_map_of_mem hspec
    exact (haffirms _ hname).mp (hdeclared _ hname)
  tfae_finish

/-- A blank override, a module and a further method leave the source as it is. -/
theorem Contribution.source_records_inputs_blank :
    ∃ c₁ c₂,
      (forType ⟨"com.example.domain.Column", by decide⟩ (.proper (.ofNames ["getCreatedBy"]))
        (.proper { createdByColumn := some "a\")\n" }) {}).result [] = .ok c₁ ∧
      (forType ⟨"com.example.domain.Column", by decide⟩
        (.proper (.ofNames ["getCreatedBy", "getName"]))
        (.proper { createdByColumn := some "a\")\n", createdDateColumn := some " " })
        { module := "core" }).result [] = .ok c₂ ∧
      c₁.unit.render = c₂.unit.render := by
  obtain ⟨c₁, c₂, h₁, h₂, -, -, hsame⟩ :=
    source_records_inputs ⟨"com.example.domain.Column", by decide⟩ (.ofNames ["getCreatedBy"])
      (.ofNames ["getCreatedBy", "getName"]) { createdByColumn := some "a\")\n" }
      { createdByColumn := some "a\")\n", createdDateColumn := some " " } {} { module := "core" }
      (by decide +kernel) (by decide +kernel) (by decide +kernel) (by decide +kernel)
      (fun _ _ => ⟨_, rfl⟩) (fun _ _ => ⟨_, rfl⟩) [] []
  have hinputs := hsame.out 1 2
  refine ⟨c₁, c₂, h₁, h₂, hinputs.mpr ⟨?_, ?_⟩⟩
  · intro k
    cases k with
    | createdDateColumn => decide
    | modifiedDateColumn => rfl
    | createdByColumn => rfl
    | modifiedByColumn => rfl
  · intro name hname
    have hother : name ≠ "getName" := by
      rintro rfl
      exact absurd hname (by decide +kernel)
    simp [Target.ofNames, hother]

end AuditAspects
