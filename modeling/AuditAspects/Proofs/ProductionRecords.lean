import AuditAspects.Proofs.AuditProduction
import Mathlib.Data.List.TakeWhile

/-!
# What a production returns and notes

*The offer.*  A production looks at the configuration first and then at the target.  What
is not the expected thing is refused with a fault of its own (`Value.asConfigFault`,
`Value.asTargetFault`), before anything is noted.

*The records.*  A production notes each getter that it leaves out, in the order of the
rows, up to the first row for which the target fails to answer (`after_produce`).

*The outcome.*  `ProductionOutcome` says for whatever is offered how a production ends,
with the bundle spelled out member by member (`Bundle.spelled`).
-/

namespace AuditAspects

/-! ## The offer -/

/-- The fault of something that stands in the place of a configuration. -/
def Value.asConfigFault : Value → Fault
  | .null => .configMissing
  | v => .configForeign v.kindName

/-- The fault of something that stands in the place of a target. -/
def Value.asTargetFault : Value → Fault
  | .null => .targetMissing
  | v => .targetForeign v.quoted

theorem Value.kind_asConfigFault (v : Value) : v.asConfigFault.kind = .configuration := by
  cases v <;> rfl

theorem Value.kind_asTargetFault (v : Value) : v.asTargetFault.kind = .configuration := by
  cases v <;> rfl

/-- A configuration is looked at before the target. -/
theorem checkOffer_foreign_config (target : Offered Target) (v : Value) :
    checkOffer target (.foreign v) = .error v.asConfigFault := by
  cases v <;> rfl

theorem checkOffer_foreign_target (config : Config) (v : Value) :
    checkOffer (.foreign v) (.proper config) = .error v.asTargetFault := by
  cases v <;> rfl

/-- What is refused is refused at once. -/
theorem produce_of_refused {target : Offered Target} {config : Offered Config} {f : Fault}
    (h : checkOffer target config = .error f) (log : List Record) :
    (produce target config).result log = .error f ∧ (produce target config).after log = log := by
  simp only [produce, Step.result_bind, Step.after_bind, Step.result_ofExcept,
    Step.after_ofExcept, h, and_self]

/-! ## The records -/

/-- The record of a getter that is left out. -/
def FieldSpec.leftOut (spec : FieldSpec) : Record :=
  ⟨.debug, "Target already declares " ++ spec.getterName ++ "(), skipping getter"⟩

namespace Target

/-- The rows up to the first for which a target fails to answer. -/
def answered (t : Target) (specs : List FieldSpec) : List FieldSpec :=
  specs.takeWhile fun spec => (t.firstFault [spec.getterName]).isNone

/-- The records of the getters that a production leaves out. -/
def records (t : Target) (specs : List FieldSpec) : List Record :=
  ((t.answered specs).filter fun spec => t.affirms spec.getterName).map FieldSpec.leftOut

/-- A target that answers for all rows answers the whole list. -/
theorem answered_of_answers {t : Target} {specs : List FieldSpec}
    (h : t.Answers (specs.map FieldSpec.getterName)) : t.answered specs = specs := by
  rw [answered, List.takeWhile_eq_self_iff]
  intro spec hspec
  have hone : t.Answers [spec.getterName] := by
    intro name hname
    rw [List.mem_singleton.mp hname]
    exact h _ (List.mem_map_of_mem hspec)
  rw [firstFault_eq_none_iff.mpr hone, Option.isNone_none]

/-- Then a record is made of each getter that is left out. -/
theorem records_of_answers {t : Target} {specs : List FieldSpec}
    (h : t.Answers (specs.map FieldSpec.getterName)) :
    t.records specs =
      (specs.filter fun spec => t.affirms spec.getterName).map FieldSpec.leftOut := by
  rw [records, answered_of_answers h]

/-- Nothing is noted from a row on for which the target fails to answer. -/
theorem records_cons_of_fault {t : Target} {spec : FieldSpec} {f : Fault}
    (h : t.firstFault [spec.getterName] = some f) (specs : List FieldSpec) :
    t.records (spec :: specs) = [] := by
  rw [records, answered, List.takeWhile_cons, h]
  rfl

theorem records_cons_of_answer {t : Target} {spec : FieldSpec}
    (h : t.firstFault [spec.getterName] = none) (specs : List FieldSpec) :
    t.records (spec :: specs) =
      (if t.affirms spec.getterName then [spec.leftOut] else []) ++ t.records specs := by
  rw [records, answered, List.takeWhile_cons, h]
  cases hd : t.affirms spec.getterName with
  | true => simp [records, answered, hd]
  | false => simp [records, answered, hd]

/-- A target that fails to answer for a method does not declare it. -/
theorem affirms_of_fault {t : Target} {name : String} {f : Fault}
    (h : t.firstFault [name] = some f) : t.affirms name = false := by
  obtain ⟨other, hmem, hdeclares⟩ := declares_of_firstFault h
  rw [← List.mem_singleton.mp hmem, affirms, hdeclares]

end Target

theorem after_getterFor {spec : FieldSpec} (h : spec ∈ auditFields) (column : Option String)
    (target : Target) (log : List Record) :
    (getterFor (spec.field column) target).after log =
      log ++ if target.affirms spec.getterName then [spec.leftOut] else [] := by
  rw [getterFor_field h, Step.after_bind, Step.result_ofExcept, Step.after_ofExcept, Target.affirms]
  cases target.declares spec.getterName with
  | error f => simp
  | ok declared =>
      cases declared with
      | true => rfl
      | false => simp

/-- Members are produced with the records of their rows. -/
theorem after_produceMembers (config : Config) (target : Target) {specs : List FieldSpec}
    (h : ∀ spec ∈ specs, spec ∈ auditFields) (log : List Record) :
    (produceMembers (·.build config) target specs).after log = log ++ target.records specs := by
  induction specs generalizing log with
  | nil => exact (List.append_nil log).symm
  | cons spec specs ih =>
      have hspec : spec ∈ auditFields := h spec List.mem_cons_self
      have hspecs : ∀ s ∈ specs, s ∈ auditFields := fun s hs => h s (List.mem_cons_of_mem _ hs)
      rw [produceMembers_cons hspec]
      simp only [Step.after_bind, Step.after_pure, result_getterFor hspec, after_getterFor hspec,
        ih hspecs]
      cases hf : target.firstFault [spec.getterName] with
      | some f =>
          have hno : target.affirms spec.getterName = false := Target.affirms_of_fault hf
          simp [hno, Target.records_cons_of_fault hf]
      | none =>
          rw [Target.records_cons_of_answer hf, ← List.append_assoc]
          dsimp only
          split
          · rfl
          · rfl

/-- A production notes the getters that it leaves out. -/
theorem after_produce (target : Target) (config : Config) (log : List Record) :
    (produce (.proper target) (.proper config)).after log =
      log ++ target.records auditFields := by
  rw [← after_produceMembers config target (fun _ h => h)]
  simp only [produce, produceWith, checkOffer, Step.after_bind, Step.result_ofExcept,
    Step.after_ofExcept]
  split
  · rfl
  · rfl

/-! ## The outcome -/

/-- The bundle that a configuration and the declared methods call for, spelled out member
by member. -/
def Bundle.spelled (config : Config) (declared : String → Bool) : Bundle where
  fields := auditFields.map fun spec =>
    { name := spec.name
      type := spec.type
      modifiers := .only .privateAccess
      annotations :=
        ((config.columnOf (.text spec.key)).toOption.join.map fun v =>
          ⟨.column, [⟨"name", .text v⟩]⟩).toList ++
        [⟨spec.role, []⟩] ++
        if spec.temporal then [⟨.temporal, [⟨"value", .constant .temporalType "TIMESTAMP"⟩]⟩]
        else [] }
  methods := (auditFields.filter fun spec => !declared spec.getterName).map fun spec =>
    { name := spec.getterName
      type := spec.type
      modifiers := .only .publicAccess
      body := ["return this." ++ spec.name ++ ";"] }
  listener := ⟨.entityListeners, [⟨"value", .classOf .auditingEntityListener⟩]⟩

/-- The bundle of auditing, spelled out. -/
theorem auditBundle_eq_spelled (config : Config) (declared : String → Bool) :
    auditBundle (·.column config) declared = Bundle.spelled config declared := by
  rw [auditBundle, Bundle.spelled]
  congr 1
  refine List.map_congr_left fun spec hspec => ?_
  rw [FieldSpec.columnOf_key hspec, FieldSpec.field, List.append_assoc]
  rfl

/-- How a production ends and what it notes, for whatever is offered. -/
structure ProductionOutcome (target : Offered Target) (config : Offered Config)
    (log : List Record) : Prop where
  /-- A bundle comes of a configuration and a target that answers, and of nothing else.  A
target that is a total predicate always answers. -/
  ok_iff : (∃ b, (produce target config).result log = .ok b) ↔
    (∃ c, config = .proper c) ∧ ∃ t, target = .proper t ∧ t.Answers auditGetters
  /-- What is no configuration is refused, whatever the target. -/
  config_refused : ∀ v, config = .foreign v →
    (produce target config).result log = .error v.asConfigFault ∧
      v.asConfigFault.kind = .configuration ∧ (produce target config).after log = log
  /-- What is no target is refused under a configuration. -/
  target_refused : ∀ c v, config = .proper c → target = .foreign v →
    (produce target config).result log = .error v.asTargetFault ∧
      v.asTargetFault.kind = .configuration ∧ (produce target config).after log = log
  /-- The bundle has a field for each row, a getter for each row whose getter is not
  declared, and the listener; the getters that are left out are noted. -/
  bundle : ∀ t c, target = .proper t → config = .proper c → t.Answers auditGetters →
    (produce target config).result log = .ok (.spelled c t.affirms) ∧
      (produce target config).after log =
        log ++ (auditFields.filter fun spec => t.affirms spec.getterName).map FieldSpec.leftOut
  /-- The getter of a row has the accessor name of its field. -/
  getterName : ∀ spec ∈ auditFields,
    accessorName spec.name (some spec.type) = .ok spec.getterName
  /-- A target that fails to answer ends the production with its first fault. -/
  target_failed : ∀ t c f, target = .proper t → config = .proper c →
    t.firstFault auditGetters = some f →
    (produce target config).result log = .error f ∧
      (produce target config).after log = log ++ t.records auditFields

/-- Every production has this outcome. -/
theorem productionOutcome (target : Offered Target) (config : Offered Config)
    (log : List Record) : ProductionOutcome target config log := by
  have hconfig : ∀ v, config = .foreign v →
      (produce target config).result log = .error v.asConfigFault ∧
        (produce target config).after log = log := by
    rintro v rfl
    exact produce_of_refused (checkOffer_foreign_config target v) log
  have htarget : ∀ c v, config = .proper c → target = .foreign v →
      (produce target config).result log = .error v.asTargetFault ∧
        (produce target config).after log = log := by
    rintro c v rfl rfl
    exact produce_of_refused (checkOffer_foreign_target c v) log
  constructor
  · constructor
    · rintro ⟨b, hok⟩
      cases config with
      | foreign v => rw [(hconfig v rfl).1] at hok; cases hok
      | proper c =>
          cases target with
          | foreign v => rw [(htarget c v rfl rfl).1] at hok; cases hok
          | proper t =>
              refine ⟨⟨c, rfl⟩, t, rfl, Target.firstFault_eq_none_iff.mp ?_⟩
              rw [result_produce] at hok
              cases hf : t.firstFault auditGetters with
              | some f => rw [hf] at hok; cases hok
              | none => rfl
    · rintro ⟨⟨c, rfl⟩, t, rfl, hanswers⟩
      rw [result_produce, Target.firstFault_eq_none_iff.mpr hanswers]
      exact ⟨_, rfl⟩
  · intro v hv
    exact ⟨(hconfig v hv).1, v.kind_asConfigFault, (hconfig v hv).2⟩
  · intro c v hc hv
    exact ⟨(htarget c v hc hv).1, v.kind_asTargetFault, (htarget c v hc hv).2⟩
  · rintro t c rfl rfl hanswers
    rw [result_produce, Target.firstFault_eq_none_iff.mpr hanswers, after_produce,
      Target.records_of_answers hanswers]
    exact ⟨congrArg Except.ok (auditBundle_eq_spelled c t.affirms), rfl⟩
  · intro spec hspec
    exact FieldSpec.accessorName_eq (name_ne_of_mem_auditFields hspec)
  · rintro t c f rfl rfl hf
    rw [result_produce, hf]
    exact ⟨rfl, after_produce t c log⟩

end AuditAspects
