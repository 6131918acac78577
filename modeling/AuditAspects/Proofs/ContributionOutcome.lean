import AuditAspects.Proofs.AuditedUnit
import AuditAspects.Proofs.ProductionRecords

/-!
# The outcome of a contribution

A contribution is made in three stages: its governor is read back from its identifier, its
bundle is produced, and the bundle is merged into a fresh draft.  The last stage never
fails.  The first one fails exactly for a path whose text is empty or begins with a question
mark (`LogicalPath.Unreadable`), before the target and the configuration are looked at.

`ContributionOutcome` says for whatever is offered how a contribution ends and what it holds.
-/

namespace AuditAspects

/-- A path from whose identifiers no type can be read back. -/
def LogicalPath.Unreadable (p : LogicalPath) : Prop :=
  p.name = "" ∨ p.name.toList.head? = some '?'

instance (p : LogicalPath) : Decidable p.Unreadable := instDecidableOr

namespace Identifier

variable {type : TypeName} {path : LogicalPath}

/-- An identifier is valid exactly if its path can be read. -/
theorem isValid_create_iff_readable :
    isValid (.text (create type path)) ↔ ¬path.Unreadable := by
  rw [isValid_create_iff, LogicalPath.Unreadable, not_or]

theorem type_create_of_unreadable (h : path.Unreadable) :
    Identifier.type (.text (create type path)) =
      .error (.identifierInvalid (create type path)) := by
  refine type_eq_error_iff.mpr ⟨?_, rfl⟩
  rw [← Bool.not_eq_true, isValid_create_iff_readable]
  exact not_not_intro h

/-- The type that is read back is the type that was written, unless the text of the path
goes on after a question mark. -/
theorem exists_type_create (type : TypeName) {path : LogicalPath} (h : ¬path.Unreadable) :
    ∃ governor, Identifier.type (.text (create type path)) = .ok governor ∧
      (governor = type ↔ '?' ∉ path.name.toList) := by
  have hvalid : isValid (.text (create type path)) := isValid_create_iff_readable.mpr h
  cases ht : Identifier.type (.text (create type path)) with
  | error f =>
      rw [(type_eq_error_iff.mp ht).1] at hvalid
      cases hvalid
  | ok governor =>
      refine ⟨governor, rfl, ?_⟩
      rw [← type_create_iff type path hvalid, ht, Except.ok.injEq]

end Identifier

/-- What a production fails with is of the kind of a malformed input, or comes from the
target. -/
theorem fault_of_produce {target : Offered Target} {config : Offered Config} {log : List Record}
    {f : Fault} (h : (produce target config).result log = .error f) :
    f.kind = .configuration ∨
      ∃ t, target = .proper t ∧ ∃ name ∈ auditGetters, t.declares name = .error f := by
  cases config with
  | foreign v =>
      rw [(produce_of_refused (checkOffer_foreign_config target v) log).1] at h
      cases h
      exact .inl v.kind_asConfigFault
  | proper c =>
      cases target with
      | foreign v =>
          rw [(produce_of_refused (checkOffer_foreign_target c v) log).1] at h
          cases h
          exact .inl v.kind_asTargetFault
      | proper t =>
          rw [result_produce] at h
          cases hf : t.firstFault auditGetters with
          | some g =>
              rw [hf] at h
              cases h
              exact .inr ⟨t, rfl, Target.declares_of_firstFault hf⟩
          | none =>
              rw [hf] at h
              cases h

namespace Contribution

variable {type : TypeName} {path : LogicalPath}

theorem forType_of_unreadable (h : path.Unreadable) (target : Offered Target)
    (config : Offered Config) :
    forType type target config path = throw (.identifierInvalid (Identifier.create type path)) := by
  rw [forType, build, Identifier.type_create_of_unreadable h]
  rfl

end Contribution

/-- The contribution that a bundle makes up for a type on a path. -/
structure MadeOf (type : TypeName) (path : LogicalPath) (b : Bundle) (c : Contribution) :
    Prop where
  /-- It is known by the identifier of the type on the path. -/
  identifier : c.identifier = Identifier.create type path
  /-- Its aspect is that of the type. -/
  aspect : c.aspect = type.aspect
  /-- Its governor is the type, if the text of the path holds no question mark. -/
  governor_iff : c.governor = type ↔ '?' ∉ path.name.toList
  /-- Its bundle is the one that was produced. -/
  bundle : c.bundle = b
  /-- That bundle is merged into the fresh draft without fault. -/
  merged : (Draft.merge b).result (Draft.start c.identifier c.aspect c.governor) = .ok ()
  /-- Its unit is what the draft then stands for. -/
  unit : c.unit = ((Draft.merge b).after (Draft.start c.identifier c.aspect c.governor)).build
  /-- The unit is declared by the identifier. -/
  declaredBy : c.unit.declaredBy = c.identifier
  /-- The fields of the unit are those of the bundle, in order. -/
  fields : c.unit.fields = b.fields
  /-- The methods of the unit are those of the bundle, in order. -/
  methods : c.unit.methods = b.methods
  /-- The only annotation of the unit is the listener of the bundle. -/
  annotations : c.unit.annotations = [b.listener]

/-- How a contribution ends and what it notes, for whatever is offered. -/
structure ContributionOutcome (type : TypeName) (target : Offered Target)
    (config : Offered Config) (path : LogicalPath) (log : List Record) : Prop where
  /-- On an unreadable path nothing is looked at but the identifier, and nothing is
  noted. -/
  refused : path.Unreadable → ∀ (otherTarget : Offered Target) (otherConfig : Offered Config),
    Contribution.forType type otherTarget otherConfig path =
      throw (.identifierInvalid (Identifier.create type path))
  /-- An identifier is found invalid on unreadable paths, and besides only by a target that
  raises such a fault itself. -/
  refused_iff :
    (∃ f, (Contribution.forType type target config path).result log = .error f ∧
      f.kind = .identifier) ↔
    path.Unreadable ∨ ∃ t f, target = .proper t ∧
      (∃ name ∈ auditGetters, t.declares name = .error f) ∧ f.kind = .identifier ∧
      (produce target config).result log = .error f
  /-- On any other path a contribution fails as its production fails. -/
  failed : ¬path.Unreadable → ∀ f, (produce target config).result log = .error f →
    (Contribution.forType type target config path).result log = .error f ∧
      (Contribution.forType type target config path).after log =
        (produce target config).after log
  /-- On any other path a contribution is made of the bundle that is produced. -/
  made : ¬path.Unreadable → ∀ b, (produce target config).result log = .ok b →
    ∃ c, (Contribution.forType type target config path).result log = .ok c ∧
      MadeOf type path b c ∧
      (Contribution.forType type target config path).after log =
        (produce target config).after log ++ [c.built]

/-- The contribution of a bundle is made of the type, the path and the bundle. -/
theorem madeOf_ofBundle {type governor : TypeName} {path : LogicalPath}
    (hgovernor : governor = type ↔ '?' ∉ path.name.toList)
    (columns : FieldSpec → Option String) (declared : String → Bool) :
    MadeOf type path (auditBundle columns declared)
      (.ofBundle (Identifier.create type path) type.aspect governor
        (auditBundle columns declared)) := by
  obtain ⟨hmerged, hunit⟩ := Contribution.merge_auditBundle (Identifier.create type path)
    type.aspect governor columns declared
  exact
    { identifier := rfl
      aspect := rfl
      governor_iff := hgovernor
      bundle := rfl
      merged := hmerged
      unit := hunit.symm
      declaredBy := rfl
      fields := rfl
      methods := rfl
      annotations := rfl }

/-- Every contribution has this outcome. -/
theorem contributionOutcome (type : TypeName) (target : Offered Target)
    (config : Offered Config) (path : LogicalPath) (log : List Record) :
    ContributionOutcome type target config path log := by
  constructor
  case refused => exact fun h => Contribution.forType_of_unreadable h
  case refused_iff =>
    by_cases hreadable : path.Unreadable
    · rw [Contribution.forType_of_unreadable hreadable, Step.result_throw]
      exact iff_of_true ⟨_, rfl, rfl⟩ (.inl hreadable)
    obtain ⟨governor, hgovernor, -⟩ := Identifier.exists_type_create type hreadable
    rw [Contribution.result_forType_of_governor hgovernor]
    cases hp : (produce target config).result log with
    | ok b => simp [hreadable]
    | error g =>
        constructor
        · rintro ⟨f, hf, hkind⟩
          cases hf
          rcases fault_of_produce hp with hconfig | ⟨t, ht, hasked⟩
          · rw [hconfig] at hkind
            cases hkind
          · exact .inr ⟨t, g, ht, hasked, hkind, rfl⟩
        · rintro (h | ⟨t, f, -, -, hkind, hf⟩)
          · exact absurd h hreadable
          · cases hf
            exact ⟨g, rfl, hkind⟩
  case failed =>
    intro hreadable f hf
    obtain ⟨governor, hgovernor, -⟩ := Identifier.exists_type_create type hreadable
    rw [Contribution.result_forType_of_governor hgovernor,
      Contribution.after_forType_of_governor hgovernor, hf]
    exact ⟨rfl, List.append_nil _⟩
  case made =>
    intro hreadable b hb
    obtain ⟨governor, hgovernor, hsame⟩ :=
      Identifier.exists_type_create type hreadable
    obtain ⟨columns, declared, rfl⟩ := exists_auditBundle_of_produce hb
    refine ⟨.ofBundle (Identifier.create type path) type.aspect governor
      (auditBundle columns declared), ?_, madeOf_ofBundle hsame columns declared, ?_⟩
    · rw [Contribution.result_forType_of_governor hgovernor, hb]
    · rw [Contribution.after_forType_of_governor hgovernor, hb]

/-- A path with a question mark inside gives a contribution whose governor is another
type. -/
example : ((Contribution.forType ⟨"a.B", by decide⟩ (.proper (.ofNames [])) (.proper {})
      ⟨"x?y", ""⟩).result []).toOption.map (fun c => (c.aspect.name, c.governor.name))
    = some ("a.B_Audit", "y?a.B") := by decide +kernel

end AuditAspects
