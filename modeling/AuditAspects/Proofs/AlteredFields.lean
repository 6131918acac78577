import AuditAspects.Proofs.ProductionRecords

/-!
# Productions with altered modifiers

How a field is built is a parameter of a production.  Here each field gets other modifiers
than it is built with, and nothing else changes.

A production with altered modifiers goes like one without up to the first field that is not
stored, and fails there (`produceMembers_altered`).  If all fields are stored, it gives the
same bundle but for the modifiers.  `alteredOutcome` says so for every choice of modifiers.
-/

namespace AuditAspects

/-! ## Altered fields -/

/-- Modifiers that keep a field out of the stored state of each instance. -/
def Modifiers.unstored (m : Modifiers) : Bool := m.has .static || m.has .transient

/-- The field with other modifiers. -/
def Field.withModifiers (f : Field) (m : Modifiers) : Field := { f with modifiers := m }

/-- Whether a field is stored depends on its modifiers alone. -/
theorem Field.isStored_withModifiers (f : Field) (m : Modifiers) :
    (f.withModifiers m).isStored = !m.unstored := by
  rw [isStored, isTransient, isStatic, withModifiers, Modifiers.unstored, Bool.not_or,
    Bool.and_comm]

/-- The bundle with other modifiers for its fields, one after the other. -/
def Bundle.withModifiers (b : Bundle) (ms : List Modifiers) : Bundle :=
  { b with fields := List.zipWith Field.withModifiers b.fields ms }

section Altered

variable (modifiers : FieldSpec → Modifiers)

/-- The field of a row under a configuration, with the modifiers that are chosen for the
row. -/
def FieldSpec.buildAltered (config : Config) (spec : FieldSpec) : Except Fault Field :=
  (spec.build config).map (·.withModifiers (modifiers spec))

/-- The rows before the first whose field is not stored. -/
def storedRows (specs : List FieldSpec) : List FieldSpec :=
  specs.takeWhile fun spec => !(modifiers spec).unstored

/-- Where no row is to blame, all rows are stored. -/
theorem storedRows_eq_self {specs : List FieldSpec}
    (h : (specs.find? fun spec => (modifiers spec).unstored) = none) :
    storedRows modifiers specs = specs := by
  rw [storedRows, List.takeWhile_eq_self_iff]
  intro spec hspec
  rw [Bool.not_eq_true', ← Bool.not_eq_true]
  exact List.find?_eq_none.mp h spec hspec

theorem mem_of_mem_storedRows {specs : List FieldSpec} {spec : FieldSpec}
    (h : spec ∈ storedRows modifiers specs) : spec ∈ specs :=
  (List.takeWhile_sublist _).subset h

/-! ## Rows in a row -/

/-- The getter of a stored field does not hang on its modifiers. -/
theorem getterFor_withModifiers {f : Field} (hf : f.isStored) {m : Modifiers}
    (hm : m.unstored = false) (target : Target) :
    getterFor (f.withModifiers m) target = getterFor f target := by
  have hstored : (f.withModifiers m).isStored = true := by
    rw [f.isStored_withModifiers, hm]
    rfl
  simp only [getterFor, hf, hstored]
  rfl

/-- With altered modifiers, the rows before the first unstored field are produced as
without, and then the production fails. -/
theorem produceMembers_altered (config : Config) (target : Target) {specs : List FieldSpec}
    (h : ∀ spec ∈ specs, spec ∈ auditFields) :
    produceMembers (FieldSpec.buildAltered modifiers config) target specs = do
      let (fields, methods) ←
        produceMembers (·.build config) target (storedRows modifiers specs)
      match specs.find? fun spec => (modifiers spec).unstored with
      | some spec => throw (.fieldNotStored spec.name)
      | none =>
          return (List.zipWith Field.withModifiers fields (specs.map modifiers), methods) := by
  induction specs with
  | nil => rfl
  | cons spec specs ih =>
      have hspec : spec ∈ auditFields := h spec List.mem_cons_self
      have hspecs : ∀ s ∈ specs, s ∈ auditFields := fun s hs => h s (List.mem_cons_of_mem _ hs)
      have hbuilt : Step.ofExcept (spec.buildAltered modifiers config) =
          (pure ((spec.field (spec.column config)).withModifiers (modifiers spec)) :
            Logged Field) := by
        rw [FieldSpec.buildAltered, FieldSpec.build_eq hspec]
        rfl
      rw [produceMembers, hbuilt, pure_bind, Field.isStored_withModifiers, storedRows,
        List.takeWhile_cons, List.find?_cons]
      cases hm : (modifiers spec).unstored with
      | true => rfl
      | false =>
          have hgetter := getterFor_withModifiers
            (spec.isStored_field (spec.column config)) hm target
          have hrows : List.takeWhile (fun spec => !(modifiers spec).unstored) specs =
              storedRows modifiers specs := rfl
          simp only [hgetter, ih hspecs, Bool.not_false, Bool.not_true, ↓reduceIte, hrows,
            produceMembers_cons hspec, bind_assoc, pure_bind]
          rw [if_neg Bool.false_ne_true]
          refine bind_congr fun getter => bind_congr fun members => ?_
          cases specs.find? fun spec => (modifiers spec).unstored with
          | some unstored => rfl
          | none => rfl

/-! ## Whole productions -/

/-- The bundle of a target, with the modifiers that are chosen for each row. -/
def produceAltered (target : Target) (config : Config) : Logged Bundle :=
  produceWith (FieldSpec.buildAltered modifiers config) target

variable (target : Target) (config : Config) (log : List Record)

/-- The production that runs changes fields.  A change that gives each field the modifiers of
its name alters the rows. -/
theorem produceChanged_withModifiers (ofName : String → Modifiers) :
    produceChanged (fun field => field.withModifiers (ofName field.name)) (.proper target)
        (.proper config) =
      produceAltered (fun spec => ofName spec.name) target config := by
  have hbuild : (fun spec : FieldSpec =>
        (spec.build config).map fun field => field.withModifiers (ofName field.name)) =
      FieldSpec.buildAltered (fun spec => ofName spec.name) config := by
    funext spec
    rw [FieldSpec.buildAltered, FieldSpec.build]
    cases config.columnOf (.text spec.key) with
    | error f => rfl
    | ok column => rfl
  exact congrArg (produceWith · target) hbuild

/-- An altered production fails for its target in the stored rows, then for the state of a
field. -/
theorem result_produceAltered :
    (produceAltered modifiers target config).result log =
      match target.firstFault ((storedRows modifiers auditFields).map FieldSpec.getterName) with
      | some f => .error f
      | none =>
          match auditFields.find? fun spec => (modifiers spec).unstored with
          | some spec => .error (.fieldNotStored spec.name)
          | none => .ok ((auditBundle (·.column config) target.affirms).withModifiers
              (auditFields.map modifiers)) := by
  rw [produceAltered, produceWith, produceMembers_altered modifiers config target fun _ h => h]
  simp only [Step.result_bind,
    result_produceMembers config target fun _ h => mem_of_mem_storedRows modifiers h]
  cases target.firstFault ((storedRows modifiers auditFields).map FieldSpec.getterName) with
  | some f => rfl
  | none =>
      cases hfind : auditFields.find? fun spec => (modifiers spec).unstored with
      | some spec => rfl
      | none =>
          rw [storedRows_eq_self modifiers hfind]
          rfl

/-- It records what is left out of the stored rows. -/
theorem after_produceAltered :
    (produceAltered modifiers target config).after log =
      log ++ target.records (storedRows modifiers auditFields) := by
  have hmembers :
      (produceMembers (FieldSpec.buildAltered modifiers config) target auditFields).after log =
        log ++ target.records (storedRows modifiers auditFields) := by
    rw [← after_produceMembers config target fun _ h => mem_of_mem_storedRows modifiers h,
      produceMembers_altered modifiers config target fun _ h => h, Step.after_bind]
    cases auditFields.find? fun spec => (modifiers spec).unstored with
    | some spec => split <;> rfl
    | none => split <;> rfl
  rw [produceAltered, produceWith, Step.after_bind, ← hmembers]
  split
  · rfl
  · rfl

/-- Under a target that answers, the state of a field is the only thing that can be amiss. -/
theorem kind_produceAltered_iff (hanswers : target.Answers auditGetters) :
    (∃ f, (produceAltered modifiers target config).result log = .error f ∧
        f.kind = .fieldState) ↔
      ∃ spec ∈ auditFields, (modifiers spec).unstored := by
  have hnone :
      target.firstFault ((storedRows modifiers auditFields).map FieldSpec.getterName) = none := by
    rw [Target.firstFault_eq_none_iff]
    intro name hname
    obtain ⟨row, hrow, rfl⟩ := List.mem_map.mp hname
    exact hanswers _ (List.mem_map_of_mem (mem_of_mem_storedRows modifiers hrow))
  rw [result_produceAltered, hnone, ← List.find?_isSome]
  cases auditFields.find? fun spec => (modifiers spec).unstored with
  | some spec => exact iff_of_true ⟨_, rfl, rfl⟩ rfl
  | none =>
      refine iff_of_false ?_ Bool.false_ne_true
      rintro ⟨f, hok, -⟩
      cases hok

/-- Modifiers of stored fields change nothing but themselves. -/
theorem produceAltered_of_stored
    (hstored : ∀ spec ∈ auditFields, (modifiers spec).unstored = false) :
    (produceAltered modifiers target config).result log =
        ((produce (.proper target) (.proper config)).result log).map
          (·.withModifiers (auditFields.map modifiers)) ∧
      (produceAltered modifiers target config).after log =
        (produce (.proper target) (.proper config)).after log := by
  have hfind : (auditFields.find? fun spec => (modifiers spec).unstored) = none :=
    List.find?_eq_none.mpr fun spec hspec => by simp [hstored spec hspec]
  rw [result_produceAltered, after_produceAltered, storedRows_eq_self modifiers hfind, hfind,
    result_produce, after_produce, auditGetters]
  cases target.firstFault (auditFields.map FieldSpec.getterName) with
  | some f => exact ⟨rfl, rfl⟩
  | none => exact ⟨rfl, rfl⟩

section FirstUnstored

variable {modifiers} {before after : List FieldSpec} {spec : FieldSpec}
  (hrows : auditFields = before ++ spec :: after)
  (hbefore : ∀ row ∈ before, (modifiers row).unstored = false) (hspec : (modifiers spec).unstored)
include hrows hbefore hspec

theorem find?_unstored :
    (auditFields.find? fun spec => (modifiers spec).unstored) = some spec := by
  rw [List.find?_eq_some_iff_append]
  exact ⟨hspec, before, after, hrows, fun row hrow => by simp [hbefore row hrow]⟩

/-- The stored rows are those before the first one to blame. -/
theorem storedRows_eq : storedRows modifiers auditFields = before := by
  rw [storedRows, hrows, List.takeWhile_append_of_pos, List.takeWhile_cons_of_neg,
    List.append_nil]
  · simp [hspec]
  · intro row hrow
    simp [hbefore row hrow]

end FirstUnstored

/-- How a production ends, and what it notes, when the fields get other modifiers. -/
structure AlteredOutcome : Prop where
  /-- Under a target that answers, as every total predicate does, the production fails for the
  state of a field exactly if a row gets modifiers that keep its field from being stored. -/
  refused_iff : target.Answers auditGetters →
    ((∃ f, (produceAltered modifiers target config).result log = .error f ∧
        f.kind = .fieldState) ↔
      ∃ spec ∈ auditFields, (modifiers spec).unstored)
  /-- It names the first such row, and has noted exactly the getters that are left out of
  the rows before it. -/
  refused : ∀ before spec after, auditFields = before ++ spec :: after →
    (∀ row ∈ before, (modifiers row).unstored = false) → (modifiers spec).unstored →
    target.Answers (before.map FieldSpec.getterName) →
    (produceAltered modifiers target config).result log = .error (.fieldNotStored spec.name) ∧
      (produceAltered modifiers target config).after log =
        log ++ (before.filter fun row => target.affirms row.getterName).map FieldSpec.leftOut
  /-- A target that fails to answer for one of the rows before it ends the production with
  its own first fault. -/
  target_failed : ∀ before spec after f, auditFields = before ++ spec :: after →
    (∀ row ∈ before, (modifiers row).unstored = false) → (modifiers spec).unstored →
    target.firstFault (before.map FieldSpec.getterName) = some f →
    (produceAltered modifiers target config).result log = .error f ∧
      (produceAltered modifiers target config).after log = log ++ target.records before
  /-- If every field is stored, the production ends and notes as it does without other
  modifiers, and the bundle is the same but for them. -/
  stored : (∀ spec ∈ auditFields, (modifiers spec).unstored = false) →
    (produceAltered modifiers target config).result log =
        ((produce (.proper target) (.proper config)).result log).map
          (·.withModifiers (auditFields.map modifiers)) ∧
      (produceAltered modifiers target config).after log =
        (produce (.proper target) (.proper config)).after log

/-- Every choice of modifiers has this outcome. -/
theorem alteredOutcome : AlteredOutcome modifiers target config log := by
  refine ⟨kind_produceAltered_iff modifiers target config log, ?_, ?_,
    produceAltered_of_stored modifiers target config log⟩
  · intro before spec after hrows hbefore hspec hanswers
    rw [result_produceAltered, after_produceAltered, storedRows_eq hrows hbefore hspec,
      find?_unstored hrows hbefore hspec, Target.firstFault_eq_none_iff.mpr hanswers,
      Target.records_of_answers hanswers]
    exact ⟨rfl, rfl⟩
  · intro before spec after f hrows hbefore hspec hf
    rw [result_produceAltered, after_produceAltered, storedRows_eq hrows hbefore hspec, hf]
    exact ⟨rfl, rfl⟩

end Altered

/-- The first transient field is named, and the getter that is left out before it is noted. -/
example :
    let modifiers : FieldSpec → Modifiers := fun spec =>
      if spec.name = "modifiedDate" then .only .transient else .only .privateAccess
    let production := produceAltered modifiers (.ofNames ["getCreatedDate", "getCreatedBy"]) {}
    (match production.result [] with
      | .ok _ => ""
      | .error f => f.message) = "Audit field 'modifiedDate' must not be transient or static" ∧
      production.after [] =
        [⟨.debug, "Target already declares getCreatedDate(), skipping getter"⟩] := by
  decide +kernel

end AuditAspects
