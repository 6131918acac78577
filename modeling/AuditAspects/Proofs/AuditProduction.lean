import AuditAspects.Bundle.Production

/-!
# The outcome of a production

What a production gives, as a function of the overrides that take effect and of the
target's answers.  `auditBundle` is the bundle of all four rows.  A target is asked
for the four names of `auditGetters`, in order, and its first fault ends the
production (`result_produce`).
-/

namespace AuditAspects

namespace FieldSpec

/-- The name of the getter of a row. -/
def getterName (spec : FieldSpec) : String :=
  accessorVerb (some spec.type) ++ (capitalized? spec.name).getD ""

/-- The getter of a row. -/
def getter (spec : FieldSpec) : Method := (spec.field none).getter spec.getterName

/-- The override that takes effect for a row. -/
def column (spec : FieldSpec) (config : Config) : Option String :=
  (ConfigKey.ofName? spec.key).bind config.columnFor

theorem isStored_field (spec : FieldSpec) (column : Option String) :
    (spec.field column).isStored = true := by
  simp [Field.isStored, Field.isTransient, Field.isStatic, field]

theorem accessorName_eq {spec : FieldSpec} (h : spec.name ≠ "") :
    accessorName spec.name (some spec.type) = .ok spec.getterName := by
  rw [accessorName, getterName]
  cases hc : capitalized? spec.name with
  | some capital => rfl
  | none =>
      have hnil : spec.name.toList = [] := by
        rw [capitalized?] at hc
        split at hc
        next hl => exact hl
        next => cases hc
      exact absurd (String.toList_eq_nil_iff.mp hnil) h

end FieldSpec

/-- The names of the getters, in the order of their fields. -/
def auditGetters : List String := auditFields.map FieldSpec.getterName

example : auditGetters = ["getCreatedDate", "getModifiedDate", "getCreatedBy", "getModifiedBy"] := by
  decide +kernel

theorem name_ne_of_mem_auditFields {spec : FieldSpec} (h : spec ∈ auditFields) :
    spec.name ≠ "" := by
  revert spec
  decide

/-- The key of a row is that of a setting. -/
theorem exists_key_of_mem_auditFields {spec : FieldSpec} (h : spec ∈ auditFields) :
    ∃ k : ConfigKey, spec.key = k.name := by
  simp only [auditFields, List.mem_cons, List.not_mem_nil, or_false] at h
  rcases h with rfl | rfl | rfl | rfl
  · exact ⟨.createdDateColumn, rfl⟩
  · exact ⟨.modifiedDateColumn, rfl⟩
  · exact ⟨.createdByColumn, rfl⟩
  · exact ⟨.modifiedByColumn, rfl⟩

/-- A configuration gives the column of every row. -/
theorem FieldSpec.columnOf_key {spec : FieldSpec} (h : spec ∈ auditFields) (config : Config) :
    config.columnOf (.text spec.key) = .ok (spec.column config) := by
  obtain ⟨k, hk⟩ := exists_key_of_mem_auditFields h
  rw [FieldSpec.column, hk, Config.columnOf_name, ConfigKey.ofName?_name]
  rfl

/-- Under a configuration every row gives its field. -/
theorem FieldSpec.build_eq {spec : FieldSpec} (h : spec ∈ auditFields) (config : Config) :
    spec.build config = .ok (spec.field (spec.column config)) := by
  rw [FieldSpec.build, columnOf_key h]
  rfl

/-! ## The answers of a target -/

namespace Target

/-- A target says that it declares a method. -/
def affirms (t : Target) (name : String) : Bool :=
  match t.declares name with
  | .ok declared => declared
  | .error _ => false

/-- The first fault among the answers of a target. -/
def firstFault (t : Target) (names : List String) : Option Fault :=
  names.findSome? fun name =>
    match t.declares name with
    | .ok _ => none
    | .error f => some f

/-- A target answers for each of some methods. -/
def Answers (t : Target) (names : List String) : Prop :=
  ∀ name ∈ names, ∃ declared, t.declares name = .ok declared

/-- A target that answers says whether it declares a method. -/
theorem Answers.declares_eq {t : Target} {names : List String} (h : t.Answers names)
    {name : String} (hname : name ∈ names) : t.declares name = .ok (t.affirms name) := by
  obtain ⟨declared, hd⟩ := h name hname
  rw [affirms, hd]

/-- A target fails at the first name that it does not answer for. -/
theorem firstFault_cons (t : Target) (name : String) (names : List String) :
    t.firstFault (name :: names) = (t.firstFault [name]).or (t.firstFault names) := by
  simp only [firstFault, List.findSome?_cons, List.findSome?_nil]
  cases t.declares name with
  | ok declared => rfl
  | error f => rfl

/-- A target answers for names exactly if it fails at none. -/
theorem firstFault_eq_none_iff {t : Target} {names : List String} :
    t.firstFault names = none ↔ t.Answers names := by
  rw [firstFault, List.findSome?_eq_none_iff]
  refine forall₂_congr fun name _ => ?_
  cases t.declares name with
  | ok declared => simp
  | error f => simp

theorem declares_of_firstFault {t : Target} {names : List String} {f : Fault}
    (h : t.firstFault names = some f) : ∃ name ∈ names, t.declares name = .error f := by
  obtain ⟨name, hmem, hname⟩ := List.exists_of_findSome?_eq_some h
  refine ⟨name, hmem, ?_⟩
  cases hd : t.declares name with
  | ok declared => simp [hd] at hname
  | error g =>
      rw [hd, Option.some.injEq] at hname
      rw [hname]

end Target

/-! ## The outcome -/

/-- The bundle of overrides that take effect and of methods that are declared. -/
def auditBundle (columns : FieldSpec → Option String) (declared : String → Bool) : Bundle where
  fields := auditFields.map fun spec => spec.field (columns spec)
  methods := (auditFields.filter fun spec => !declared spec.getterName).map FieldSpec.getter
  listener := auditListener

/-- The getter of a row, unless the target declares it. -/
theorem getterFor_field {spec : FieldSpec} (h : spec ∈ auditFields) (column : Option String)
    (target : Target) :
    getterFor (spec.field column) target = do
      let declared ← Step.ofExcept (target.declares spec.getterName)
      if declared then
        Logged.note .debug ("Target already declares " ++ spec.getterName ++ "(), skipping getter")
        return none
      else
        return some spec.getter := by
  have haccessor : accessorName (spec.field column).name (some (spec.field column).type) =
      .ok spec.getterName := FieldSpec.accessorName_eq (name_ne_of_mem_auditFields h)
  have hname : Step.ofExcept (.ok spec.getterName) = (pure spec.getterName : Logged String) := rfl
  rw [getterFor, haccessor, hname, pure_bind]
  simp only [FieldSpec.isStored_field, ↓reduceIte]
  rfl

/-- Each row gives its field and, unless it is left out, its getter. -/
theorem produceMembers_cons {spec : FieldSpec} (h : spec ∈ auditFields) (config : Config)
    (target : Target) (specs : List FieldSpec) :
    produceMembers (·.build config) target (spec :: specs) = do
      let getter ← getterFor (spec.field (spec.column config)) target
      let (fields, methods) ← produceMembers (·.build config) target specs
      return (spec.field (spec.column config) :: fields, getter.toList ++ methods) := by
  have hbuilt : Step.ofExcept (.ok (spec.field (spec.column config))) =
      (pure (spec.field (spec.column config)) : Logged Field) := rfl
  rw [produceMembers, FieldSpec.build_eq h, hbuilt, pure_bind, FieldSpec.isStored_field]
  rfl

/-- A row gives its getter unless the target declares it, or else the target's fault. -/
theorem result_getterFor {spec : FieldSpec} (h : spec ∈ auditFields) (column : Option String)
    (target : Target) (log : List Record) :
    (getterFor (spec.field column) target).result log =
      match target.firstFault [spec.getterName] with
      | some f => .error f
      | none => .ok (if target.affirms spec.getterName then none else some spec.getter) := by
  rw [getterFor_field h, Step.result_bind, Step.result_ofExcept, Target.affirms]
  cases hd : target.declares spec.getterName with
  | error f => simp [Target.firstFault, hd]
  | ok declared =>
      cases declared with
      | true =>
          simp only [Target.firstFault, List.findSome?_cons, List.findSome?_nil, hd]
          rfl
      | false => simp [Target.firstFault, hd]

/-- Rows give their fields and getters, or else the target's first fault. -/
theorem result_produceMembers (config : Config) (target : Target) {specs : List FieldSpec}
    (h : ∀ spec ∈ specs, spec ∈ auditFields) (log : List Record) :
    (produceMembers (·.build config) target specs).result log =
      match target.firstFault (specs.map FieldSpec.getterName) with
      | some f => .error f
      | none => .ok (specs.map fun spec => spec.field (spec.column config),
          (specs.filter fun spec => !target.affirms spec.getterName).map FieldSpec.getter) := by
  induction specs generalizing log with
  | nil => rfl
  | cons spec specs ih =>
      have hspec : spec ∈ auditFields := h spec List.mem_cons_self
      have hspecs : ∀ s ∈ specs, s ∈ auditFields := fun s hs => h s (List.mem_cons_of_mem _ hs)
      rw [produceMembers_cons hspec, List.map_cons, Target.firstFault_cons]
      simp only [Step.result_bind, Step.result_pure, result_getterFor hspec, ih hspecs]
      cases hf : target.firstFault [spec.getterName] with
      | some f => rfl
      | none =>
          cases hfs : target.firstFault (specs.map FieldSpec.getterName) with
          | some f => rfl
          | none =>
              cases hd : target.affirms spec.getterName with
              | true => simp [hd]
              | false => simp [hd]

/-- A production gives the bundle of the effective inputs unless the target fails to
answer. -/
theorem result_produce (target : Target) (config : Config) (log : List Record) :
    (produce (.proper target) (.proper config)).result log =
      match target.firstFault auditGetters with
      | some f => .error f
      | none => .ok (auditBundle (·.column config) target.affirms) := by
  simp only [produce, produceWith, checkOffer, Step.result_bind, Step.result_ofExcept,
    Step.after_ofExcept, result_produceMembers config target fun _ h => h]
  rw [auditGetters]
  cases target.firstFault (auditFields.map FieldSpec.getterName) with
  | some f => rfl
  | none => rfl

/-- Whatever is offered, a bundle that is made is that of a target that answers and of the
overrides of a configuration that take effect. -/
theorem produce_eq_ok {target : Offered Target} {config : Offered Config} {log : List Record}
    {b : Bundle} (h : (produce target config).result log = .ok b) :
    ∃ t c, target = .proper t ∧ config = .proper c ∧ b = auditBundle (·.column c) t.affirms := by
  cases config with
  | foreign v => cases v <;> cases h
  | proper c =>
      cases target with
      | foreign v => cases v <;> cases h
      | proper t =>
          rw [result_produce] at h
          cases hf : t.firstFault auditGetters with
          | some f =>
              rw [hf] at h
              cases h
          | none =>
              rw [hf] at h
              exact ⟨t, c, rfl, rfl, (Except.ok.inj h).symm⟩

/-- A bundle that is made is the bundle of some overrides and of some declared methods. -/
theorem exists_auditBundle_of_produce {target : Offered Target} {config : Offered Config}
    {log : List Record} {b : Bundle} (h : (produce target config).result log = .ok b) :
    ∃ columns declared, b = auditBundle columns declared := by
  obtain ⟨t, c, -, -, rfl⟩ := produce_eq_ok h
  exact ⟨_, _, rfl⟩

end AuditAspects
