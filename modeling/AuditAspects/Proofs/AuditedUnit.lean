import AuditAspects.Contribution
import AuditAspects.Proofs.AspectName
import AuditAspects.Proofs.AuditProduction
import AuditAspects.Proofs.DraftMerge
import AuditAspects.Proofs.HeldMembers
import AuditAspects.Proofs.IdentifierRoundTrip
import AuditAspects.Proofs.SourceNames

/-!
# The unit of a contribution

*The contribution.*  A contribution is a function of its identifier, its governor and
its bundle (`ofBundle`, `result_forType_of_governor`): the bundle is merged without
fault, since no two of its members share a name.

*Its names.*  The types that audit members mention have pairwise different simple
names, and none has the simple name of an aspect.  Only the governor can take a name
from one of them (`owner?_audit`), and such a type is written in full
(`written_audit`).
-/

namespace AuditAspects

/-! ## The contribution of a bundle -/

/-- The contribution that a bundle makes up. -/
def Contribution.ofBundle (identifier : String) (aspect governor : TypeName) (b : Bundle) :
    Contribution where
  identifier := identifier
  aspect := aspect
  governor := governor
  bundle := b
  unit :=
    { declaredBy := identifier
      aspect := aspect
      governor := governor
      fields := b.fields
      methods := b.methods
      annotations := [b.listener]
      imports := (NameTable.forUnit aspect governor b.claims).imports }

theorem Contribution.holds_ofBundle (identifier : String) (aspect governor : TypeName)
    (b : Bundle) : (ofBundle identifier aspect governor b).unit.holds b = true := by
  simp [ofBundle, CompanionUnit.holds]

theorem auditBundle_fields_nodup (columns : FieldSpec → Option String)
    (declared : String → Bool) :
    ((auditBundle columns declared).fields.map Field.name).Nodup := by
  have hnames : (auditBundle columns declared).fields.map Field.name =
      auditFields.map FieldSpec.name := by
    rw [auditBundle, List.map_map]
    exact List.map_congr_left fun _ _ => rfl
  rw [hnames]
  decide

theorem auditGetters_nodup : auditGetters.Nodup := by
  decide +kernel

theorem auditBundle_methods_nodup (columns : FieldSpec → Option String)
    (declared : String → Bool) :
    ((auditBundle columns declared).methods.map Method.name).Nodup := by
  have hnames : (auditBundle columns declared).methods.map Method.name =
      (auditFields.filter fun spec => !declared spec.getterName).map FieldSpec.getterName := by
    rw [auditBundle, List.map_map]
    exact List.map_congr_left fun _ _ => rfl
  rw [hnames]
  exact auditGetters_nodup.sublist (List.filter_sublist.map _)

namespace Contribution

/-- The record of a contribution that is made. -/
def built (c : Contribution) : Record :=
  ⟨.debug, "Built " ++ c.aspect.simpleName ++ ": " ++ toString c.bundle.fields.length ++
    " field(s), " ++ toString c.bundle.methods.length ++ " method(s)"⟩

/-- The bundle of audit members is merged into a fresh draft without fault. -/
theorem merge_auditBundle (identifier : String) (aspect governor : TypeName)
    (columns : FieldSpec → Option String) (declared : String → Bool) :
    (Draft.merge (auditBundle columns declared)).result
        (Draft.start identifier aspect governor) = .ok () ∧
      ((Draft.merge (auditBundle columns declared)).after
        (Draft.start identifier aspect governor)).build =
          (ofBundle identifier aspect governor (auditBundle columns declared)).unit := by
  obtain ⟨hok, hafter⟩ := Draft.merge_of_nodup
    (d := Draft.start identifier aspect governor) (b := auditBundle columns declared)
    (auditBundle_fields_nodup columns declared) (auditBundle_methods_nodup columns declared)
  rw [hafter]
  exact ⟨hok, rfl⟩

section Governor

variable {type governor : TypeName} {path : LogicalPath}
  (h : Identifier.type (.text (Identifier.create type path)) = .ok governor)
  (target : Offered Target) (config : Offered Config) (log : List Record)
include h

/-- Once the governor is read, a contribution ends as the production of its bundle. -/
theorem result_forType_of_governor :
    (forType type target config path).result log =
      match (produce target config).result log with
      | .error f => .error f
      | .ok b => .ok (ofBundle (Identifier.create type path) type.aspect governor b) := by
  simp only [forType, build, h, Step.result_bind, Step.result_ofExcept, Step.after_ofExcept]
  cases hp : (produce target config).result log with
  | error f => rfl
  | ok b =>
      obtain ⟨columns, declared, rfl⟩ := exists_auditBundle_of_produce hp
      obtain ⟨hok, hunit⟩ :=
        merge_auditBundle (Identifier.create type path) type.aspect governor columns declared
      simp only [Value.plain, hok, hunit, Logged.result_note, Step.result_pure]
      rfl

/-- Once the governor is read, a contribution notes what the production notes, and that
it is made. -/
theorem after_forType_of_governor :
    (forType type target config path).after log =
      (produce target config).after log ++
        match (produce target config).result log with
        | .error _ => []
        | .ok b => [(ofBundle (Identifier.create type path) type.aspect governor b).built] := by
  simp only [forType, build, h, Step.after_bind, Step.result_ofExcept, Step.after_ofExcept]
  cases hp : (produce target config).result log with
  | error f => exact (List.append_nil _).symm
  | ok b =>
      obtain ⟨columns, declared, rfl⟩ := exists_auditBundle_of_produce hp
      obtain ⟨hok, hunit⟩ :=
        merge_auditBundle (Identifier.create type path) type.aspect governor columns declared
      simp only [Value.plain, hok, Logged.result_note, Logged.after_note, Step.after_pure]
      rfl

end Governor

/-- The contribution for a type on a path that can be read back is that of the bundle
of the effective inputs, unless the target fails to answer. -/
theorem result_forType (type : TypeName) (target : Target) (config : Config)
    {path : LogicalPath} (hne : path.name ≠ "") (hsep : '?' ∉ path.name.toList)
    (log : List Record) :
    (forType type (.proper target) (.proper config) path).result log =
      match target.firstFault auditGetters with
      | some f => .error f
      | none => .ok (ofBundle (Identifier.create type path) type.aspect type
          (auditBundle (·.column config) target.affirms)) := by
  have htype : Identifier.type (.text (Identifier.create type path)) = .ok type :=
    Identifier.type_of_isSpelled (Identifier.isSpelled_create hne hsep)
  rw [result_forType_of_governor htype, result_produce]
  cases target.firstFault auditGetters with
  | some f => rfl
  | none => rfl

/-- A contribution is made whenever the target answers for the getters and the path can be read
back. -/
theorem result_forType_of_answers (type : TypeName) {target : Target} (config : Config)
    {path : LogicalPath} (hne : path.name ≠ "") (hsep : '?' ∉ path.name.toList)
    (hanswers : target.Answers auditGetters) (log : List Record) :
    (forType type (.proper target) (.proper config) path).result log =
      .ok (ofBundle (Identifier.create type path) type.aspect type
        (auditBundle (·.column config) target.affirms)) := by
  rw [result_forType type target config hne hsep, Target.firstFault_eq_none_iff.mpr hanswers]

end Contribution

/-! ## The types of audit members -/

/-- All types that audit members may mention. -/
def auditTypes : List TypeName :=
  [.calendar, .string, .column, .temporal, .temporalType, .entityListeners, .createdDate,
   .lastModifiedDate, .createdBy, .lastModifiedBy, .auditingEntityListener]

/-- No two types of auditing have one simple name. -/
theorem auditTypes_inj {t u : TypeName} (ht : t ∈ auditTypes) (hu : u ∈ auditTypes)
    (h : t.simpleName = u.simpleName) : t = u := by
  have hnodup : (auditTypes.map TypeName.simpleName).Nodup := by decide +kernel
  exact List.inj_on_of_nodup_map hnodup ht hu h

/-- The name of an audit type has a dot, and otherwise only letters. -/
theorem name_of_mem_auditTypes {t : TypeName} (h : t ∈ auditTypes) :
    '.' ∈ t.name.toList ∧ ∀ c ∈ t.name.toList, c.isAlpha ∨ c = '.' := by
  have hall : (auditTypes.all fun u => u.name.toList.contains '.' &&
      u.name.toList.all fun c => c.isAlpha || c == '.') = true := by
    decide +kernel
  have ht := List.all_eq_true.mp hall t h
  simpa using ht

/-- An aspect's simple name holds an underscore, and those of audit types do not. -/
theorem simpleName_aspect_ne_of_mem_auditTypes {t : TypeName} (h : t ∈ auditTypes)
    (governor : TypeName) : governor.aspect.simpleName ≠ t.simpleName := by
  intro heq
  have hmem : '_' ∈ t.simpleName.toList := by
    rw [← heq, TypeName.simpleName_aspect, String.toList_append]
    exact List.mem_append_right _ (by decide)
  rcases (name_of_mem_auditTypes h).2 '_' (t.mem_name_of_mem_simpleName hmem) with h | h
  · exact absurd h (by decide)
  · exact absurd h (by decide)

theorem mem_auditTypes_of_mem_field {spec : FieldSpec} (hspec : spec ∈ auditFields)
    (column : Option String) {t : TypeName} (h : t ∈ (spec.field column).referencedTypes) :
    t ∈ auditTypes := by
  have hplain : ∀ s ∈ auditFields, ∀ u ∈ (s.field none).referencedTypes, u ∈ auditTypes := by
    simp [auditFields, FieldSpec.field, Field.referencedTypes, timestampPrecision,
      AnnotationTag.type, AttributeValue.referencedTypes, auditTypes, Annotation.referencedTypes]
  cases column with
  | none => exact hplain spec hspec t h
  | some c =>
      have hmem : t = .column ∨ t ∈ (spec.field none).referencedTypes := by
        simp only [Field.referencedTypes, FieldSpec.field, Option.map_some, Option.toList_some,
          Option.map_none, Option.toList_none, List.cons_append, List.nil_append,
          List.flatMap_cons, List.mem_cons, Annotation.referencedTypes, Annotation.forColumn,
          AnnotationTag.type, AttributeValue.referencedTypes, List.flatMap_nil,
          List.append_nil] at h ⊢
        tauto
      rcases hmem with rfl | hmem
      · decide
      · exact hplain spec hspec t hmem

/-- A bundle of auditing mentions types of auditing. -/
theorem mem_auditTypes {columns : FieldSpec → Option String} {declared : String → Bool}
    {t : TypeName} (h : t ∈ (auditBundle columns declared).referencedTypes) : t ∈ auditTypes := by
  rcases Bundle.mem_referencedTypes.mp h with h | ⟨f, hf, h⟩ | ⟨m, hm, h⟩
  · have hlistener : ∀ u ∈ auditListener.referencedTypes, u ∈ auditTypes := by
      simp [auditListener, AnnotationTag.type, AttributeValue.referencedTypes, auditTypes,
        Annotation.referencedTypes]
    exact hlistener t h
  · obtain ⟨spec, hspec, rfl⟩ := List.mem_map.mp hf
    exact mem_auditTypes_of_mem_field hspec (columns spec) h
  · obtain ⟨spec, hspec, rfl⟩ := List.mem_map.mp hm
    refine mem_auditTypes_of_mem_field (List.mem_filter.mp hspec).1 none ?_
    rw [List.mem_singleton.mp h]
    exact List.mem_cons_self

/-- A bundle that is made mentions no other types. -/
theorem mem_auditTypes_of_produce {target : Offered Target} {config : Offered Config}
    {log : List Record} {b : Bundle} (h : (produce target config).result log = .ok b)
    {t : TypeName} (ht : t ∈ b.referencedTypes) : t ∈ auditTypes := by
  obtain ⟨columns, declared, rfl⟩ := exists_auditBundle_of_produce h
  exact mem_auditTypes ht

/-- The merge of a bundle that a production returns. -/
def Draft.Edit.IsProduced (e : Draft.Edit) : Prop :=
  ∃ target config log b, (produce target config).result log = .ok b ∧ e = .bundle b

theorem Draft.Edit.IsProduced.mem_auditTypes {e : Draft.Edit} (h : e.IsProduced) {m : Member}
    (hm : m ∈ e.members) {t : TypeName} (ht : t ∈ m.referencedTypes) : t ∈ auditTypes := by
  obtain ⟨target, config, log, b, hproduce, rfl⟩ := h
  exact mem_auditTypes_of_produce hproduce (Bundle.mem_referencedTypes_of_member hm ht)

/-! ## The names in the unit -/

/-- The name of a type beside a governor: its simple name, or its full name if it
shares the simple name of the governor without being the governor. -/
def TypeName.beside (t governor : TypeName) : String :=
  if t.simpleName = governor.simpleName ∧ t ≠ governor then t.name else t.simpleName

theorem TypeName.beside_aspect (governor : TypeName) :
    governor.aspect.beside governor = governor.aspect.simpleName :=
  if_neg fun h => governor.simpleName_aspect_ne h.1

theorem TypeName.mem_name_of_mem_beside {t governor : TypeName} {c : Char}
    (h : c ∈ (t.beside governor).toList) : c ∈ t.name.toList := by
  rw [beside] at h
  split at h
  · exact h
  · exact t.mem_name_of_mem_simpleName h

namespace NameTable

variable {governor t u : TypeName} {types : List TypeName}

section

variable (htypes : ∀ u ∈ types, u ∈ auditTypes)
include htypes

/-- A name that an audit type shares with the governor is the governor's; every other
audit type owns its name. -/
theorem owner?_audit (ht : t ∈ governor :: types) :
    (forUnit governor.aspect governor types).owner? t.simpleName =
      some (if t.simpleName = governor.simpleName then governor else t) := by
  rw [owner?_forUnit]
  by_cases hg : t.simpleName = governor.simpleName
  · rw [if_pos hg, if_neg (hg ▸ governor.simpleName_aspect_ne), if_pos hg.symm]
  · have hmem : t ∈ types := by
      rcases List.mem_cons.mp ht with rfl | hmem
      · exact absurd rfl hg
      · exact hmem
    rw [if_neg hg, if_neg (simpleName_aspect_ne_of_mem_auditTypes (htypes t hmem) governor),
      if_neg (Ne.symm hg)]
    cases hf : types.find? (·.simpleName = t.simpleName) with
    | none =>
        have := List.find?_eq_none.mp hf t hmem
        simp at this
    | some v =>
        have hv : v ∈ types := List.mem_of_find?_eq_some hf
        have hs : v.simpleName = t.simpleName := by simpa using List.find?_some hf
        rw [auditTypes_inj (htypes v hv) (htypes t hmem) hs]

/-- The source of a unit writes a type by its name beside the governor. -/
theorem written_audit (ht : t ∈ governor :: types) :
    (forUnit governor.aspect governor
      (forUnit governor.aspect governor types).imports).written t = t.beside governor := by
  have howner := owner?_audit htypes ht
  rw [(written_forUnit_imports_iff _ _ _ howner).mpr, TypeName.beside]
  · by_cases hg : t.simpleName = governor.simpleName
    · rw [if_pos hg] at howner
      by_cases hself : t = governor
      · rw [written_of_owner (hself ▸ howner), if_neg (fun h => h.2 hself)]
      · rw [written_of_other howner (Ne.symm hself), if_pos ⟨hg, hself⟩]
    · rw [if_neg hg] at howner
      rw [written_of_owner howner, if_neg fun h => hg h.1]
  · rintro ⟨-, -, hne, -, -, hng⟩
    by_cases hg : t.simpleName = governor.simpleName
    · exact hng (if_pos hg)
    · exact hne (if_neg hg)

/-- What a unit imports: the types of other packages that are not visible by themselves, but for
those that have the simple name of the governor. -/
theorem mem_imports_audit :
    t ∈ (forUnit governor.aspect governor types).imports ↔
      t ∈ types ∧ t.isLang = false ∧ t.package ≠ governor.package ∧
        t.simpleName ≠ governor.simpleName := by
  have hvisible : ∀ u, (forUnit governor.aspect governor types).isVisible u = false ↔
      u.isLang = false ∧ u.package ≠ governor.package := by
    intro u
    rw [isVisible_forUnit, TypeName.package_aspect]
    simp
  rw [mem_imports_iff (forUnit_distinct _ _ _), hvisible]
  constructor
  · rintro ⟨ho, hlang, hpackage⟩
    have hne : t ≠ governor := fun h => hpackage (h ▸ rfl)
    have ha : governor.aspect.simpleName ≠ t.simpleName := by
      intro h
      rw [owner?_forUnit, if_pos h, Option.some.injEq] at ho
      exact hpackage (ho ▸ governor.package_aspect)
    have hg : governor.simpleName ≠ t.simpleName := by
      intro h
      rw [owner?_forUnit, if_neg ha, if_pos h, Option.some.injEq] at ho
      exact hne ho.symm
    rw [owner?_forUnit, if_neg ha, if_neg hg] at ho
    exact ⟨List.mem_of_find?_eq_some ho, hlang, hpackage, hg.symm⟩
  · rintro ⟨hmem, hlang, hpackage, hs⟩
    refine ⟨?_, hlang, hpackage⟩
    rw [owner?_audit htypes (List.mem_cons_of_mem _ hmem), if_neg hs]

/-- Types that are written in full have a package. -/
theorem dot_mem_of_full (ht : t ∈ governor :: types) (hne : t ≠ governor) :
    '.' ∈ t.name.toList := by
  rcases List.mem_cons.mp ht with h | hmem
  · exact absurd h hne
  · exact (name_of_mem_auditTypes (htypes t hmem)).1

/-- Beside the governor no two types are written by one name. -/
theorem beside_inj (ht : t ∈ governor :: types) (hu : u ∈ governor :: types)
    (h : t.beside governor = u.beside governor) : t = u := by
  rw [TypeName.beside, TypeName.beside] at h
  by_cases hft : t.simpleName = governor.simpleName ∧ t ≠ governor
  · rw [if_pos hft] at h
    by_cases hfu : u.simpleName = governor.simpleName ∧ u ≠ governor
    · rw [if_pos hfu] at h
      exact TypeName.ext_name h
    · rw [if_neg hfu] at h
      exact absurd (h ▸ dot_mem_of_full htypes ht hft.2) u.dot_not_mem_simpleName
  · rw [if_neg hft] at h
    by_cases hfu : u.simpleName = governor.simpleName ∧ u ≠ governor
    · rw [if_pos hfu] at h
      exact absurd (h.symm ▸ dot_mem_of_full htypes hu hfu.2) t.dot_not_mem_simpleName
    · rw [if_neg hfu] at h
      by_cases hg : t.simpleName = governor.simpleName
      · have htg : t = governor := by
          by_contra hne
          exact hft ⟨hg, hne⟩
        have hug : u = governor := by
          by_contra hne
          exact hfu ⟨h ▸ hg, hne⟩
        rw [htg, hug]
      · have htmem : t ∈ types := List.mem_of_ne_of_mem (fun h' => hg (h' ▸ rfl)) ht
        have humem : u ∈ types := List.mem_of_ne_of_mem (fun h' => hg (h ▸ h' ▸ rfl)) hu
        exact auditTypes_inj (htypes t htmem) (htypes u humem) h

/-- The name of the aspect is none that another type is written by. -/
theorem simpleName_aspect_ne_beside (ht : t ∈ governor :: types) :
    governor.aspect.simpleName ≠ t.beside governor := by
  intro h
  rw [TypeName.beside] at h
  by_cases hft : t.simpleName = governor.simpleName ∧ t ≠ governor
  · rw [if_pos hft] at h
    exact governor.aspect.dot_not_mem_simpleName (h ▸ dot_mem_of_full htypes ht hft.2)
  · rw [if_neg hft] at h
    rcases List.mem_cons.mp ht with rfl | hmem
    · exact t.simpleName_aspect_ne h
    · exact simpleName_aspect_ne_of_mem_auditTypes (htypes t hmem) governor h

/-- No two of the aspect, the governor and the audit types have one name. -/
theorem beside_audit_inj (ht : t ∈ governor.aspect :: governor :: types)
    (hu : u ∈ governor.aspect :: governor :: types) (h : t.beside governor = u.beside governor) :
    t = u := by
  rcases List.mem_cons.mp ht with rfl | ht
  · rcases List.mem_cons.mp hu with rfl | hu
    · rfl
    · rw [TypeName.beside_aspect] at h
      exact absurd h (simpleName_aspect_ne_beside htypes hu)
  · rcases List.mem_cons.mp hu with rfl | hu
    · rw [TypeName.beside_aspect] at h
      exact absurd h.symm (simpleName_aspect_ne_beside htypes ht)
    · exact beside_inj htypes ht hu h

end

end NameTable

namespace Contribution

/-- The source of a contribution names its types as a governor demands. -/
structure NamesTypes (c : Contribution) (governor : TypeName) : Prop where
  /-- The imports ascend strictly. -/
  imports_ascend : c.unit.imports.Pairwise fun a b => a.name < b.name
  /-- A type is imported if a member mentions it, it is not visible by itself, and the
  governor does not take its name. -/
  mem_imports : ∀ t, t ∈ c.unit.imports ↔ t ∈ c.bundle.referencedTypes ∧ t.isLang = false ∧
    t.package ≠ governor.package ∧ t.simpleName ≠ governor.simpleName
  /-- The source has places for the aspect, for the governor and for the types that members
  mention. -/
  hasPlace_iff : ∀ t, c.unit.layout.HasPlace t ↔
    t ∈ c.unit.aspect :: governor :: c.bundle.referencedTypes
  /-- In its places a type is written by its simple name, or in full exactly if it would be
  taken for the governor. -/
  render_eq : c.unit.render.toList = Text.ofLines (c.unit.layout.fill fun t =>
    if t.simpleName = governor.simpleName ∧ t ≠ governor then t.name else t.simpleName)
  /-- Different types are written by different names. -/
  written_inj : ∀ t u, c.unit.layout.HasPlace t → c.unit.layout.HasPlace u →
    t.beside governor = u.beside governor → t = u

section OfBundle

variable (identifier : String) (governor : TypeName) (columns : FieldSpec → Option String)
  (declared : String → Bool) {t : TypeName}

theorem mem_auditTypes_of_mem_claims (ht : t ∈ (auditBundle columns declared).claims) :
    t ∈ auditTypes :=
  mem_auditTypes (Bundle.mem_claims.mp ht)

/-- The unit of a contribution writes a type by its name beside the governor. -/
theorem written_ofBundle (ht : t ∈ governor :: (auditBundle columns declared).referencedTypes) :
    (ofBundle identifier governor.aspect governor
      (auditBundle columns declared)).unit.names.written t = t.beside governor := by
  refine NameTable.written_audit (fun _ => mem_auditTypes_of_mem_claims columns declared) ?_
  simpa only [List.mem_cons, Bundle.mem_claims] using ht

/-- The unit of a bundle has places for its aspect, its governor and the types that the bundle
mentions. -/
theorem hasPlace_ofBundle {b : Bundle} :
    (ofBundle identifier governor.aspect governor b).unit.layout.HasPlace t ↔
      t ∈ governor.aspect :: governor :: b.referencedTypes := by
  have hmembers : t ∈ (ofBundle identifier governor.aspect governor b).unit.referencedTypes ↔
      t ∈ b.referencedTypes := by
    simp [CompanionUnit.referencedTypes, ofBundle, Bundle.referencedTypes]
  have hannotations : (ofBundle identifier governor.aspect governor b).unit.annotations ≠ [] :=
    List.cons_ne_nil _ _
  rw [CompanionUnit.hasPlace_layout, hmembers]
  simp only [hannotations, ne_eq, not_false_eq_true, true_or, and_true, List.mem_cons]
  exact or_congr_right or_comm

theorem namesTypes_ofBundle :
    (ofBundle identifier governor.aspect governor (auditBundle columns declared)).NamesTypes
      governor := by
  have htypes : ∀ u ∈ (auditBundle columns declared).claims, u ∈ auditTypes :=
    fun _ => mem_auditTypes_of_mem_claims columns declared
  have hclaims : ∀ u, u ∈ governor.aspect :: governor :: (auditBundle columns declared).claims ↔
      u ∈ governor.aspect :: governor :: (auditBundle columns declared).referencedTypes := by
    intro u
    simp only [List.mem_cons, Bundle.mem_claims]
  constructor
  · exact NameTable.imports_pairwise_lt (NameTable.forUnit_distinct _ _ _)
  · intro t
    rw [← Bundle.mem_claims]
    exact NameTable.mem_imports_audit htypes
  · intro t
    exact hasPlace_ofBundle identifier governor
  · rw [CompanionUnit.render_eq_fill]
    refine congrArg Text.ofLines (Layout.fill_congr fun t ht => ?_)
    rcases List.mem_cons.mp ((hasPlace_ofBundle identifier governor).mp ht) with rfl | ht
    · exact (CompanionUnit.written_aspect _).trans governor.beside_aspect.symm
    · exact written_ofBundle identifier governor columns declared ht
  · intro t u ht hu h
    rw [hasPlace_ofBundle, ← hclaims] at ht hu
    exact NameTable.beside_audit_inj htypes ht hu h

end OfBundle

end Contribution

/-- For a type on a path that can be read back, either the target fails to answer for
one of the four getters, or the contribution is made and its unit names its types as
the type demands. -/
theorem Contribution.forType_namesTypes (type : TypeName) (target : Target) (config : Config)
    (path : LogicalPath) (hne : path.name ≠ "") (hsep : '?' ∉ path.name.toList)
    (log : List Record) :
    (∃ c, (forType type (.proper target) (.proper config) path).result log = .ok c ∧
      (produce (.proper target) (.proper config)).result log = .ok c.bundle ∧
      c.NamesTypes type) ∨
    ∃ name ∈ auditGetters, ∃ f, target.declares name = .error f ∧
      (forType type (.proper target) (.proper config) path).result log = .error f := by
  rw [result_forType type target config hne hsep, result_produce]
  cases hf : target.firstFault auditGetters with
  | some f =>
      obtain ⟨name, hname, hfault⟩ := Target.declares_of_firstFault hf
      exact .inr ⟨name, hname, f, hfault, rfl⟩
  | none => exact .inl ⟨_, rfl, rfl, namesTypes_ofBundle _ _ _ _⟩

/-- A governor that shares its simple name with an audit type. -/
theorem Contribution.forType_namesTypes_calendar :
    ∃ c, (forType ⟨"com.example.domain.Calendar", by decide⟩ (.proper (.ofNames ["getCreatedBy"]))
        (.proper { createdByColumn := some "who" }) {}).result [] = .ok c ∧
      c.NamesTypes ⟨"com.example.domain.Calendar", by decide⟩ := by
  rcases forType_namesTypes ⟨"com.example.domain.Calendar", by decide⟩
      (.ofNames ["getCreatedBy"]) { createdByColumn := some "who" } {} (by decide +kernel)
      (by decide +kernel) [] with ⟨c, hc, -, hnames⟩ | ⟨name, -, f, hf, -⟩
  · exact ⟨c, hc, hnames⟩
  · simp [Target.ofNames] at hf

end AuditAspects
