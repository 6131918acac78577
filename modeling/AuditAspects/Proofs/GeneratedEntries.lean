import AuditAspects.Proofs.EntityNames
import AuditAspects.Proofs.ListedEntities
import AuditAspects.Proofs.SourceHeading

/-!
# The entries of a generation

Generation gives paths with texts, and a path that comes twice keeps one text alone.  In an
`Orderly` project no path comes twice: the path of a unit is read off the package and the
aspect in its text, these determine the type of the entity, and entities have different
types.  So generation gives one entry for each entity, in the order in which they are listed
(`generatedEntries`).

The lines of a unit say where it belongs, but its text by itself does so only if its lines
come back from it.  A logical path with a question mark and a line feed behind that gives a
governor whose import breaks into lines, and one of these can pass for a package line
(`generate_brokenImport`).
-/

namespace AuditAspects

/-! ## Related lists -/

section Related

variable {α β : Type} {R : α → β → Prop} {xs : List α} {ys : List β}

theorem exists_related (h : List.Forall₂ R xs ys) {y : β} (hy : y ∈ ys) : ∃ x ∈ xs, R x y := by
  induction h with
  | nil => exact absurd hy List.not_mem_nil
  | cons hfirst _ ih =>
      rcases List.mem_cons.mp hy with rfl | hy
      · exact ⟨_, List.mem_cons_self, hfirst⟩
      · obtain ⟨x, hx, hxy⟩ := ih hy
        exact ⟨x, List.mem_cons_of_mem _ hx, hxy⟩

/-- Nothing comes twice that is related to one item alone of a list in which nothing comes
twice. -/
theorem nodup_of_related (h : List.Forall₂ R xs ys) (hxs : xs.Nodup)
    (hapart : ∀ x ∈ xs, ∀ x' ∈ xs, ∀ y, R x y → R x' y → x = x') : ys.Nodup := by
  induction h with
  | nil => exact List.nodup_nil
  | @cons x y xs ys hxy hrest ih =>
      obtain ⟨hx, hxs⟩ := List.nodup_cons.mp hxs
      refine List.nodup_cons.mpr ⟨fun hy => ?_, ih hxs fun a ha b hb =>
        hapart a (List.mem_cons_of_mem _ ha) b (List.mem_cons_of_mem _ hb)⟩
      obtain ⟨x', hx', hx'y⟩ := exists_related hrest hy
      have hsame : x = x' :=
        hapart x List.mem_cons_self x' (List.mem_cons_of_mem _ hx') y hxy hx'y
      exact hx (hsame ▸ hx')

end Related

namespace Session

open Step

/-! ## One entity -/

/-- The entry of an entity: its text, under the path that the text says itself. -/
structure EntryOf (s : Session) (sourceRoot : String) (c : Contract) (entry : String × String) :
    Prop where
  /-- The text is that of the unit, whose lines say where it belongs. -/
  lines : ∃ k, (contribution c).result s = .ok k ∧ entry.2 = k.unit.render ∧
    (heading? k.unit.lines).map (·.path sourceRoot) = some entry.1
  /-- The text by itself says so too, unless a line feed comes behind a question mark in the
  logical path: then a part of that could pass for a line of the text. -/
  text : (∀ path before after, s.logicalPath c = .ok path →
      path.name.toList = before ++ '?' :: after → '\n' ∉ after) →
    (heading? (Text.linesOf entry.2)).map (·.path sourceRoot) = some entry.1

/-! ## Orderly projects -/

/-- A project that opens, whose entities all have contributions, whose classes have simple
names, whose packages hold no slash and no line feed, and whose directory of sources is a
text. -/
structure Orderly (s : Session) (sourceRoot : String) (es : List (String × Contract)) :
    Prop where
  opened : opening.result s = .ok es
  built : ∀ e ∈ es, ∃ k, (contribution e.2).result (opening.after s) = .ok k
  classes : ∀ e ∈ es, ∀ c ∈ ['.', '/', '\n'], c ∉ e.2.name.toList
  packages : ∀ e ∈ es, ∀ v, e.2.package = .ok v → ∀ c ∈ ['/', '\n'], c ∉ v.packageText.toList
  sources : (opening.after s).setting .sourceRoot = .text sourceRoot

namespace Orderly

variable {s : Session} {sourceRoot : String} {es : List (String × Contract)}

/-- The type of an entity, by its package and its class. -/
theorem exists_type (h : Orderly s sourceRoot es) {e : String × Contract} (he : e ∈ es) :
    ∃ type : TypeName, e.2.type = .ok type ∧ type.name = e.1 ∧ type.Placed ∧
      ∀ c ∈ ['/', '\n'], c ∉ type.package.toList ∧ c ∉ type.simpleName.toList := by
  obtain ⟨type, htype, hname⟩ := ((records_opening h.opened).named e he).2
  have hclass := h.classes e he
  obtain ⟨hsimple, hplaced, v, hv, hpackage⟩ :=
    Contract.parts_of_type htype (hclass '.' List.mem_cons_self)
  refine ⟨type, htype, hname, hplaced, fun c hc => ?_⟩
  rw [hpackage, hsimple]
  exact ⟨h.packages e he v hv c hc, hclass c (List.mem_cons_of_mem _ hc)⟩

/-- The aspect of a type without slashes has none. -/
theorem noSlash_aspect {type : TypeName}
    (h : ∀ c ∈ ['/', '\n'], c ∉ type.package.toList ∧ c ∉ type.simpleName.toList) :
    NoSlash type.aspect := by
  obtain ⟨hpackage, hsimple⟩ := h '/' List.mem_cons_self
  rw [NoSlash, type.package_aspect, type.simpleName_aspect, String.toList_append, List.mem_append,
    not_or]
  exact ⟨hpackage, hsimple, by decide⟩

/-- The path of a unit is that of the type of its entity. -/
theorem path_eq (h : Orderly s sourceRoot es) {c : Contract} {type : TypeName}
    (htype : c.type = .ok type) {entry : String × String}
    (hunit : (opening.after s).unitOf c = .ok entry) :
    entry.1 = unitPathUnder sourceRoot type.aspect := by
  obtain ⟨k, hk, hpath, -⟩ := unitOf_eq_ok hunit
  obtain ⟨_, type', _, _, _, -, htype', -, -, rfl⟩ := contribution_eq_ok hk
  rw [htype, Except.ok.injEq] at htype'
  rw [unitPath_of_text h.sources, Except.ok.injEq] at hpath
  rw [← hpath, htype']
  rfl

/-- Entities whose units have one path are one. -/
theorem eq_of_path (h : Orderly s sourceRoot es) {d e : String × Contract} (hd : d ∈ es)
    (he : e ∈ es) {path : String} (hdpath : ∃ text, (opening.after s).unitOf d.2 = .ok (path, text))
    (hepath : ∃ text, (opening.after s).unitOf e.2 = .ok (path, text)) : d = e := by
  obtain ⟨t, ht, hdname, hdplaced, hdplain⟩ := h.exists_type hd
  obtain ⟨u, hu, hename, heplaced, heplain⟩ := h.exists_type he
  obtain ⟨dtext, hdunit⟩ := hdpath
  obtain ⟨etext, heunit⟩ := hepath
  have hdpath : path = unitPathUnder sourceRoot t.aspect := h.path_eq ht hdunit
  have hepath : path = unitPathUnder sourceRoot u.aspect := h.path_eq hu heunit
  obtain ⟨hpackage, hsimple⟩ :=
    unitPathUnder_inj (noSlash_aspect hdplain) (noSlash_aspect heplain) (hdpath.symm.trans hepath)
  rw [TypeName.package_aspect, TypeName.package_aspect] at hpackage
  rw [TypeName.simpleName_aspect, TypeName.simpleName_aspect] at hsimple
  have hsimple : t.simpleName = u.simpleName := by
    have hlists := congrArg String.toList hsimple
    rw [String.toList_append, String.toList_append] at hlists
    exact String.toList_inj.mp (List.append_cancel_right hlists)
  have hsame : t = u := TypeName.ext_of_parts hdplaced heplaced hpackage hsimple
  have hnames : d.1 = e.1 := by rw [← hdname, ← hename, hsame]
  exact List.inj_on_of_nodup_map (distinct_opening h.opened) hd he hnames

/-- What is rendered for an entity is its entry. -/
theorem entryOf (h : Orderly s sourceRoot es) {e : String × Contract} (he : e ∈ es)
    {entry : String × String} (hunit : (opening.after s).unitOf e.2 = .ok entry) :
    EntryOf (opening.after s) sourceRoot e.2 entry := by
  obtain ⟨type, htype, -, hplaced, hplain⟩ := h.exists_type he
  have hpath := h.path_eq htype hunit
  obtain ⟨k, hk, -, htext⟩ := unitOf_eq_ok hunit
  obtain ⟨path, type', governor, columns, declared, hlogical, htype', hgovernor, hsame, rfl⟩ :=
    contribution_eq_ok hk
  rw [htype, Except.ok.injEq] at htype'
  subst htype'
  refine ⟨⟨_, hk, htext, ?_⟩, fun hbreaks => ?_⟩
  · rw [CompanionUnit.heading?_lines, Option.map_some, CompanionUnit.path_heading, hpath]
    rfl
  · obtain ⟨hpackage, hsimple⟩ := hplain '\n' (by decide)
    have hunbroken : '\n' ∉ governor.name.toList := by
      have htypeName : '\n' ∉ type.name.toList := by
        rw [TypeName.name_of_placed hplaced]
        split
        · exact hsimple
        · simp [hpackage, hsimple]
      intro hmem
      rcases Identifier.mem_governor hgovernor hmem with ⟨before, after, hpath, hmem⟩ | hmem | hmem
      · exact hbreaks path before after hlogical hpath hmem
      · exact absurd hmem (by decide)
      · exact htypeName hmem
    rw [htext, CompanionUnit.heading?_linesOf, Option.map_some, CompanionUnit.path_heading, hpath]
    · rfl
    · refine Contribution.linesAbove_unbroken ?_ hunbroken
      rw [TypeName.package_aspect]
      exact hpackage
    · have haspect : '\n' ∉ type.aspect.simpleName.toList := by
        rw [TypeName.simpleName_aspect, String.toList_append, List.mem_append, not_or]
        exact ⟨hsimple, by decide⟩
      exact haspect

end Orderly

/-! ## All entries -/

/-- What generation gives for a project. -/
structure GeneratedEntries (s : Session) (sourceRoot : String) (es : List (String × Contract)) :
    Prop where
  /-- There is one entry for each entity, in the order of their names, and no path comes
  twice. -/
  entries : ∃ rendered, generate.result s = .ok rendered ∧
    List.Forall₂ (fun e entry => EntryOf (opening.after s) sourceRoot e.2 entry)
      (sortEntities es) rendered ∧
    (rendered.map Prod.fst).Nodup
  /-- The entities are those of the scan, by strictly ascending names. -/
  sorted : (sortEntities es).Perm es ∧ (sortEntities es).Pairwise fun d e => d.1 < e.1
  /-- This is the order in which they are listed. -/
  listed : ∀ project, Location.ofText project = s.root →
    (Command.run (.list project false) s.toWorkspace).2 =
      .ofLines (Command.listHeader es.length ++
        if es = [] then ["  No audited entities found"]
        else (sortEntities es).map fun e => "  - " ++ e.1)

/-- An orderly project has an entry for each entity, under a path of its own. -/
theorem generatedEntries {s : Session} {sourceRoot : String} {es : List (String × Contract)}
    (h : Orderly s sourceRoot es) : GeneratedEntries s sourceRoot es where
  entries := by
    have hmem : ∀ e, e ∈ sortEntities es ↔ e ∈ es := fun e => mem_sortBy
    cases hunits : (opening.after s).unitsOf (sortEntities es) with
    | error f =>
        obtain ⟨before, e, after, -, hsplit, -, hfailed⟩ := unitsOf_eq_error hunits
        have he : e ∈ es := (hmem e).mp (hsplit ▸ List.mem_append_right _ List.mem_cons_self)
        obtain ⟨k, hk⟩ := h.built e he
        rw [unitOf_of_contribution hk h.sources] at hfailed
        cases hfailed
    | ok units =>
        have hrendered := forall₂_unitOf hunits
        have hrelated : List.Forall₂
            (fun e path => ∃ text, (opening.after s).unitOf e.2 = .ok (path, text))
            (sortEntities es) (units.map Prod.fst) :=
          List.forall₂_map_right_iff.mpr (hrendered.imp fun e u hu => ⟨u.2, hu⟩)
        have hpaths : (units.map Prod.fst).Nodup := by
          refine nodup_of_related hrelated ?_ fun d hd e he path hdpath hepath =>
            h.eq_of_path ((hmem d).mp hd) ((hmem e).mp he) hdpath hepath
          exact (sortBy_perm _ es).nodup_iff.mpr (distinct_opening h.opened).of_map
        have hput : putUnits [] units = units := putUnits_of_nodup hpaths
        refine ⟨units, ?_, ?_, hpaths⟩
        · rw [result_generate, h.opened]
          simp only [hunits, Except.map, hput]
        · have hheld : ∀ e ∈ sortEntities es, e ∈ es := fun e he => (hmem e).mp he
          refine ((List.forall₂_and_left _ _).mpr ⟨hheld, hrendered⟩).imp ?_
          exact fun e entry hentry => h.entryOf hentry.1 hentry.2
  sorted := ⟨sortBy_perm _ es, sortEntities_pairwise (distinct_opening h.opened)⟩
  listed := by
    intro project hproject
    have hfound : (Command.sessionOn s.toWorkspace project).found = s.found := by
      rw [Command.sessionOn, hproject]
      rfl
    have hscan : scan.result (Command.sessionOn s.toWorkspace project) = .ok es := by
      rw [(scan_eq _).1, hfound]
      exact opening_eq_ok h.opened
    exact Command.report_list_names hscan

/-- Two classes of one name, one of them in no package, have entries of their own. -/
theorem generatedEntries_twoCustomers :
    ∃ es, Orderly (Command.sessionOn Command.twoCustomers ".") "src/main/java" es ∧
      es.length = 2 ∧
      GeneratedEntries (Command.sessionOn Command.twoCustomers ".") "src/main/java" es := by
  obtain ⟨es, hopened, hnames, hbuilt⟩ := Command.opening_twoCustomers
  have hpackages : ((opening.result (Command.sessionOn Command.twoCustomers ".")).toOption.getD
      []).all (fun e => e.2.package.toOption.all fun v =>
        ['/', '\n'].all fun c => !v.packageText.toList.contains c) = true := by
    decide +kernel
  rw [hopened] at hpackages
  have horderly : Orderly (Command.sessionOn Command.twoCustomers ".") "src/main/java" es :=
    { opened := hopened
      built := hbuilt
      classes := by
        intro e he c hc
        have hpair : (e.1, e.2.name) ∈ es.map fun e => (e.1, e.2.name) :=
          List.mem_map_of_mem (f := fun e => (e.1, e.2.name)) he
        have hclass : e.2.name = "Customer" := by
          rw [hnames] at hpair
          simp only [List.mem_cons, List.not_mem_nil, Prod.mk.injEq, or_false] at hpair
          exact hpair.elim And.right And.right
        have hplain : ['.', '/', '\n'].all (fun c => !"Customer".toList.contains c) = true := by
          decide
        rw [hclass]
        simpa using List.all_eq_true.mp hplain c hc
      packages := by
        intro e he v hv c hc
        have hall := List.all_eq_true.mp hpackages e he
        rw [hv] at hall
        simpa using List.all_eq_true.mp hall c hc
      sources := rfl }
  exact ⟨es, horderly, by simpa using congrArg List.length hnames, generatedEntries horderly⟩

/-- A project whose logical path holds a question mark, and lines behind it. -/
def brokenImport : Session :=
  { ofModules [("a.py", [auditedClass "Customer" ""])] with
    environment := [(Setting.logicalPath.variableName, "x?y.\npackage evil;\n.Z")] }

/-- The governor of its entity, whose import breaks into lines. -/
def brokenGovernor : TypeName := ⟨"y.\npackage evil;\n.Z?Customer", by decide⟩

/-- The lines of this import. -/
def brokenLines : List String := ["import y.", "package evil;", ".Z?Customer;"]

/-- One of these lines passes for the package line of a unit that has none. -/
theorem heading?_brokenGovernor (identifier : String) (columns : FieldSpec → Option String)
    (declared : String → Bool) {aspect : TypeName} (hpackage : aspect.package = "")
    (hsimple : aspect.simpleName = "Customer_Audit") :
    heading? (Text.linesOf (Contribution.ofBundle identifier aspect brokenGovernor
      (auditBundle columns declared)).unit.render) = some ⟨some "evil", "Customer_Audit"⟩ := by
  have hgovernor : brokenGovernor.isLang = false ∧ brokenGovernor.package ≠ "" ∧
      "Customer_Audit" ≠ brokenGovernor.simpleName := by
    decide +kernel
  have hpieces : Text.ofLines brokenLines =
      Text.ofLines ["import " ++ brokenGovernor.name ++ ";"] := by
    decide +kernel
  have hplain : ∀ line ∈ brokenLines, '\n' ∉ line.toList ∧ aspectLine? line = none := by
    decide +kernel
  have hfound : brokenLines.findSome? packageLine? = some "evil" := by decide +kernel
  have himported : brokenGovernor ∈ (Contribution.ofBundle identifier aspect brokenGovernor
      (auditBundle columns declared)).unit.names.imports := by
    refine Contribution.governor_mem_imports hgovernor.1 ?_ ?_
    · rw [hpackage]
      exact hgovernor.2.1
    · rw [hsimple]
      exact hgovernor.2.2
  obtain ⟨before, after, himports⟩ := List.append_of_mem himported
  have hothers : ∀ t ∈ before ++ after, '\n' ∉ t.name.toList := by
    intro t ht hmem
    have hnodup : (before ++ brokenGovernor :: after).Nodup := by
      rw [← himports]
      refine (NameTable.imports_pairwise_lt (NameTable.forUnit_distinct _ _ _)).imp ?_
      rintro t u hlt rfl
      exact String.lt_irrefl _ hlt
    have hother : t ≠ brokenGovernor := by
      rintro rfl
      exact (List.nodup_middle.mp hnodup).notMem ht
    have himport : t ∈ (Contribution.ofBundle identifier aspect brokenGovernor
        (auditBundle columns declared)).unit.names.imports := by
      rw [himports]
      exact List.mem_append.mpr ((List.mem_append.mp ht).imp id (List.mem_cons_of_mem _))
    rcases Contribution.mem_imports_source himport with rfl | haudit
    · exact hother rfl
    · rcases (name_of_mem_auditTypes haudit).2 _ hmem with hletter | hdot
      · exact absurd hletter (by decide)
      · exact absurd hdot (by decide)
  have hname : '\n' ∉ aspect.simpleName.toList := by
    rw [hsimple]
    decide
  have hbroken := CompanionUnit.heading?_of_brokenImport himports hothers hpackage hname hpieces
    hplain hfound
  rw [hbroken]
  exact congrArg (fun name => some (Heading.mk (some "evil") name)) hsimple

/-- The project has one entity, with a contribution. -/
theorem opening_brokenImport :
    ∃ e : String × Contract, opening.result brokenImport = .ok [e] ∧ e.1 = "Customer" ∧
      e.2.name = "Customer" ∧ e.2.package.toOption.map Value.packageText = some "" ∧
      ((opening.after brokenImport).logicalPath e.2).toOption.map LogicalPath.name =
        some "x?y.\npackage evil;\n.Z" ∧
      ∃ k, (contribution e.2).result (opening.after brokenImport) = .ok k := by
  have hnames : (opening.result brokenImport).toOption.map
      (·.map fun e => (e.1, e.2.name, e.2.package.toOption.map Value.packageText)) =
        some [("Customer", "Customer", some "")] := by
    decide +kernel
  have hpath : ((opening.result brokenImport).toOption.getD []).all (fun e =>
      ((opening.after brokenImport).logicalPath e.2).toOption.map LogicalPath.name =
        some "x?y.\npackage evil;\n.Z") = true := by
    decide +kernel
  have hbuilt : ((opening.result brokenImport).toOption.getD []).all
      (fun e => ((contribution e.2).result (opening.after brokenImport)).isOk) = true := by
    decide +kernel
  cases hopening : opening.result brokenImport with
  | error f =>
      rw [hopening] at hnames
      cases hnames
  | ok es =>
      rw [hopening] at hnames hpath hbuilt
      obtain ⟨e, rfl, he⟩ := List.map_eq_singleton_iff.mp (Option.some.inj hnames)
      obtain ⟨htype, hrest⟩ := Prod.mk.inj he
      obtain ⟨hclass, hpackage⟩ := Prod.mk.inj hrest
      refine ⟨e, rfl, htype, hclass, hpackage, ?_, ?_⟩
      · exact of_decide_eq_true (List.all_eq_true.mp hpath e List.mem_cons_self)
      · have hok := List.all_eq_true.mp hbuilt e List.mem_cons_self
        cases hresult : (contribution e.2).result (opening.after brokenImport) with
        | ok k => exact ⟨k, rfl⟩
        | error f =>
            rw [hresult] at hok
            cases hok

/-- The project is orderly, but the text of its entity names another package than its path. -/
theorem generate_brokenImport :
    ∃ es, Orderly brokenImport "src/main/java" es ∧
      ∃ text, generate.result brokenImport = .ok [("src/main/java/Customer_Audit.aj", text)] ∧
        (heading? (Text.linesOf text)).map (·.path "src/main/java") =
          some "src/main/java/evil/Customer_Audit.aj" := by
  obtain ⟨e, hopened, hname, hclass, hpackage, hpath, k, hk⟩ := opening_brokenImport
  have hsources : (opening.after brokenImport).setting .sourceRoot = .text "src/main/java" := rfl
  have hplain : ['.', '/', '\n'].all (fun c => !"Customer".toList.contains c) = true := by decide
  refine ⟨[e], ⟨hopened, ?_, ?_, ?_, hsources⟩, k.unit.render, ?_⟩
  · intro d hd
    rw [List.mem_singleton.mp hd]
    exact ⟨k, hk⟩
  · intro d hd c hc
    rw [List.mem_singleton.mp hd, hclass]
    simpa using List.all_eq_true.mp hplain c hc
  · intro d hd v hv c _
    rw [List.mem_singleton.mp hd] at hv
    rw [hv] at hpackage
    rw [Option.some.inj hpackage]
    exact List.not_mem_nil
  obtain ⟨path, type, governor, columns, declared, hlogical, htype, hgovernor, -, hbundle⟩ :=
    contribution_eq_ok hk
  obtain ⟨type', htype', hnamed⟩ := ((records_opening hopened).named e List.mem_cons_self).2
  rw [htype, Except.ok.injEq] at htype'
  rw [← htype', hname] at hnamed
  rw [hlogical] at hpath
  have htypeName : type = ⟨"Customer", by decide⟩ := TypeName.ext_name hnamed
  have hgovernorName : governor = brokenGovernor := by
    rw [Identifier.create_eq_spell, Option.some.inj hpath, hnamed] at hgovernor
    have hfixed : Identifier.type (.text (Identifier.spell "x?y.\npackage evil;\n.Z" "Customer")) =
        .ok brokenGovernor := by
      decide +kernel
    rw [hfixed] at hgovernor
    exact (Except.ok.inj hgovernor).symm
  have haspect : k.aspect = type.aspect := congrArg Contribution.aspect hbundle
  constructor
  · have hput : ∀ entry : String × String, putUnits [] [entry] = [entry] := fun _ => rfl
    have hlocated : unitPathUnder "src/main/java" type.aspect =
        "src/main/java/Customer_Audit.aj" := by
      rw [htypeName]
      decide +kernel
    have hunit : (opening.after brokenImport).unitOf e.2 =
        .ok ("src/main/java/Customer_Audit.aj", k.unit.render) := by
      rw [unitOf_of_contribution hk hsources, haspect, hlocated]
    have hsorted : sortEntities [e] = [e] := rfl
    rw [result_generate, hopened]
    simp only [hsorted, unitsOf, hunit, Except.map, hput]
  · have hparts : type.aspect.package = "" ∧ type.aspect.simpleName = "Customer_Audit" := by
      rw [htypeName]
      decide +kernel
    rw [hbundle, hgovernorName, heading?_brokenGovernor _ _ _ hparts.1 hparts.2]
    decide +kernel

end Session

end AuditAspects
