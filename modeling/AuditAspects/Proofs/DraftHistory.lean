import AuditAspects.CompanionUnit.Draft
import AuditAspects.Proofs.NameOwnership
import Mathlib.Logic.Relation

/-!
# Histories of drafts

The types of one member come as a set, so the order in which they claim their
names is open.  A `ClaimOrder` fixes it anew for each member that is taken in.  The
edits that run take the order of the source, which is one of them
(`applyAllIn_source`).

Whatever the order and however many edits are refused, a draft changes by members
taken in one at a time (`takesAll_applyAllIn`).  So what one taken member keeps, a
whole history keeps (`takesAll_invariant`): above all that the table of names is
made by the claims of exactly the types that the members mention
(`exists_records_applyAllIn`).
-/

namespace AuditAspects

/-- A choice of the order in which the types of each member claim their names.  The
number of members taken in before tells the members apart. -/
structure ClaimOrder where
  /-- The types of a member in the order of their claims. -/
  arrange : (held : Nat) → List TypeName → List TypeName
  /-- No type is lost and none is added. -/
  mem_arrange : ∀ {held : Nat} {types : List TypeName} {t : TypeName},
    t ∈ arrange held types ↔ t ∈ types

/-- The order of the source. -/
def ClaimOrder.source : ClaimOrder := ⟨fun _ types => types, Iff.rfl⟩

namespace Draft

/-! ## Edits under an order of claims -/

/-- The number of members taken in so far. -/
def held (d : Draft) : Nat := d.fields.length + d.methods.length + d.annotations.length

variable (o : ClaimOrder)

/-- Adds a field, whose types claim their names in the given order. -/
def addFieldIn (f : Field) : Step Draft Unit := do
  let d ← get
  addFieldClaiming f (o.arrange d.held f.referencedTypes)

/-- Adds a method, whose type claims its name. -/
def addMethodIn : Option Method → Step Draft Unit
  | none => pure ()
  | some m => do
      let d ← get
      addMethodClaiming m (o.arrange d.held m.referencedTypes)

/-- Adds an annotation, whose types claim their names in the given order. -/
def addAnnotationIn (a : Annotation) : Step Draft Unit := do
  let d ← get
  addAnnotationClaiming a (o.arrange d.held a.referencedTypes)

/-- Adds several fields, up to the first that is refused. -/
def addFieldsIn : List Field → Step Draft Unit
  | [] => pure ()
  | f :: fs => do
      addFieldIn o f
      addFieldsIn fs

/-- Adds several methods, up to the first that is refused. -/
def addMethodsIn : List Method → Step Draft Unit
  | [] => pure ()
  | m :: ms => do
      addMethodIn o (some m)
      addMethodsIn ms

/-- Adds the members of a bundle, up to the first that is refused. -/
def mergeIn (b : Bundle) : Step Draft Unit := do
  addFieldsIn o b.fields
  addMethodsIn o b.methods
  addAnnotationIn o b.listener

/-- The step of an edit under an order of claims. -/
def Edit.stepIn : Edit → Step Draft Unit
  | .field f => addFieldIn o f
  | .method m => addMethodIn o m
  | .mark a => addAnnotationIn o a
  | .bundle b => mergeIn o b

/-- The draft after a history of edits, whether or not some are refused. -/
def applyAllIn (d : Draft) (es : List Edit) : Draft :=
  es.foldl (fun d e => (e.stepIn o).after d) d

theorem addFieldsIn_source (fs : List Field) : addFieldsIn .source fs = addFields fs := by
  induction fs with
  | nil => rfl
  | cons f fs ih =>
      rw [addFieldsIn, addFields, ih]
      rfl

theorem addMethodsIn_source (ms : List Method) : addMethodsIn .source ms = addMethods ms := by
  induction ms with
  | nil => rfl
  | cons m ms ih =>
      rw [addMethodsIn, addMethods, ih]
      rfl

/-- In the order of the source an edit is the step that runs. -/
theorem stepIn_source (e : Edit) : e.stepIn .source = e.step := by
  cases e with
  | field f => rfl
  | method m =>
      cases m with
      | none => rfl
      | some m => rfl
  | mark a => rfl
  | bundle b =>
      rw [Edit.stepIn, Edit.step, mergeIn, merge, addFieldsIn_source, addMethodsIn_source]
      rfl

/-- The order of the source gives the histories of `applyAll`. -/
theorem applyAllIn_source (d : Draft) (es : List Edit) :
    applyAllIn .source d es = applyAll d es := by
  rw [applyAllIn, applyAll]
  simp only [stepIn_source]
  rfl

/-! ## One member -/

section Claiming

variable (f : Field) (m : Method) (types : List TypeName) (d : Draft)

/-- A field is taken in with the claims of its types, unless its name is there already. -/
theorem after_addFieldClaiming :
    (addFieldClaiming f types).after d =
      if ∃ g ∈ d.fields, g.name = f.name then d
      else { d with fields := d.fields ++ [f], names := d.names.addImports types } := by
  simp only [addFieldClaiming, Step.after_bind, Step.result_get, Step.after_get, List.any_eq_true,
    decide_eq_true_eq]
  split <;> rfl

/-- A field is refused exactly if its name is there already. -/
theorem result_addFieldClaiming :
    (addFieldClaiming f types).result d =
      if ∃ g ∈ d.fields, g.name = f.name then .error (.fieldDeclared f.name d.aspect)
      else .ok () := by
  simp only [addFieldClaiming, Step.result_bind, Step.result_get, Step.after_get,
    List.any_eq_true, decide_eq_true_eq]
  split <;> rfl

/-- A method is taken in with the claims of its types, unless its name is there already. -/
theorem after_addMethodClaiming :
    (addMethodClaiming m types).after d =
      if ∃ g ∈ d.methods, g.name = m.name then d
      else { d with methods := d.methods ++ [m], names := d.names.addImports types } := by
  simp only [addMethodClaiming, Step.after_bind, Step.result_get, Step.after_get,
    List.any_eq_true, decide_eq_true_eq]
  split <;> rfl

/-- A method is refused exactly if its name is there already. -/
theorem result_addMethodClaiming :
    (addMethodClaiming m types).result d =
      if ∃ g ∈ d.methods, g.name = m.name then .error (.methodDeclared m.name d.aspect)
      else .ok () := by
  simp only [addMethodClaiming, Step.result_bind, Step.result_get, Step.after_get,
    List.any_eq_true, decide_eq_true_eq]
  split <;> rfl

end Claiming

/-! ## Taking in members -/

/-- One draft takes in a member whose name is free, and the types of the member
claim their names in some order. -/
inductive Takes : Draft → Draft → Prop
  /-- A field is taken in. -/
  | field {d : Draft} {f : Field} {types : List TypeName}
      (free : ∀ g ∈ d.fields, g.name ≠ f.name)
      (mentioned : ∀ t, t ∈ types ↔ t ∈ f.referencedTypes) :
      Takes d { d with fields := d.fields ++ [f], names := d.names.addImports types }
  /-- A method is taken in. -/
  | method {d : Draft} {m : Method} {types : List TypeName}
      (free : ∀ g ∈ d.methods, g.name ≠ m.name)
      (mentioned : ∀ t, t ∈ types ↔ t ∈ m.referencedTypes) :
      Takes d { d with methods := d.methods ++ [m], names := d.names.addImports types }
  /-- An annotation is taken in. -/
  | mark {d : Draft} {a : Annotation} {types : List TypeName}
      (mentioned : ∀ t, t ∈ types ↔ t ∈ a.referencedTypes) :
      Takes d { d with annotations := d.annotations ++ [a], names := d.names.addImports types }

/-- One draft takes in any number of members, one after the other. -/
def TakesAll : Draft → Draft → Prop := Relation.ReflTransGen Takes

theorem takesAll_addFieldIn (f : Field) (d : Draft) :
    TakesAll d ((addFieldIn o f).after d) := by
  simp only [addFieldIn, Step.after_bind, Step.result_get, Step.after_get]
  by_cases taken : ∃ g ∈ d.fields, g.name = f.name
  · rw [after_addFieldClaiming, if_pos taken]
    exact .refl
  · rw [after_addFieldClaiming, if_neg taken]
    exact .single (.field (fun g hg hname => taken ⟨g, hg, hname⟩) fun t => o.mem_arrange)

theorem takesAll_addMethodIn (m : Option Method) (d : Draft) :
    TakesAll d ((addMethodIn o m).after d) := by
  cases m with
  | none => exact .refl
  | some m =>
      simp only [addMethodIn, Step.after_bind, Step.result_get, Step.after_get]
      by_cases taken : ∃ g ∈ d.methods, g.name = m.name
      · rw [after_addMethodClaiming, if_pos taken]
        exact .refl
      · rw [after_addMethodClaiming, if_neg taken]
        exact .single (.method (fun g hg hname => taken ⟨g, hg, hname⟩) fun t => o.mem_arrange)

theorem takesAll_addAnnotationIn (a : Annotation) (d : Draft) :
    TakesAll d ((addAnnotationIn o a).after d) := by
  simp only [addAnnotationIn, Step.after_bind, Step.result_get, Step.after_get]
  exact .single (.mark fun t => o.mem_arrange)

/-- Of two steps in a row, the second is taken only if the first succeeds. -/
theorem TakesAll.bind {α β : Type} {x : Step Draft α} {k : α → Step Draft β} {d : Draft}
    (hx : TakesAll d (x.after d)) (hk : ∀ a d', TakesAll d' ((k a).after d')) :
    TakesAll d (Step.after (x >>= k) d) := by
  rw [Step.after_bind]
  cases x.result d with
  | ok a => exact hx.trans (hk a _)
  | error f => exact hx

theorem takesAll_addFieldsIn (fs : List Field) (d : Draft) :
    TakesAll d ((addFieldsIn o fs).after d) := by
  induction fs generalizing d with
  | nil => exact .refl
  | cons f fs ih => exact (takesAll_addFieldIn o f d).bind fun _ d' => ih d'

theorem takesAll_addMethodsIn (ms : List Method) (d : Draft) :
    TakesAll d ((addMethodsIn o ms).after d) := by
  induction ms generalizing d with
  | nil => exact .refl
  | cons m ms ih => exact (takesAll_addMethodIn o (some m) d).bind fun _ d' => ih d'

theorem takesAll_stepIn (e : Edit) (d : Draft) : TakesAll d ((e.stepIn o).after d) := by
  cases e with
  | field f => exact takesAll_addFieldIn o f d
  | method m => exact takesAll_addMethodIn o m d
  | mark a => exact takesAll_addAnnotationIn o a d
  | bundle b =>
      refine (takesAll_addFieldsIn o b.fields d).bind fun _ d' => ?_
      refine (takesAll_addMethodsIn o b.methods d').bind fun _ d'' => ?_
      exact takesAll_addAnnotationIn o b.listener d''

theorem takesAll_applyAllIn (d : Draft) (es : List Edit) : TakesAll d (applyAllIn o d es) := by
  induction es generalizing d with
  | nil => exact .refl
  | cons e es ih => exact (takesAll_stepIn o e d).trans (ih _)

/-- What every taken member keeps, a whole history keeps. -/
theorem takesAll_invariant {P : Draft → Prop} (keeps : ∀ d d', Takes d d' → P d → P d')
    {d d' : Draft} (h : TakesAll d d') (hd : P d) : P d' := by
  induction h with
  | refl => exact hd
  | tail _ last ih => exact keeps _ _ last ih

/-! ## The history of claims -/

/-- The table of a draft is that of a unit in which the types of `history` have
claimed their names, and these are the types that the members mention. -/
structure Records (d : Draft) (history : List TypeName) : Prop where
  names_eq : d.names = NameTable.forUnit d.aspect d.governor history
  mem_iff : ∀ t, t ∈ history ↔ t ∈ d.build.referencedTypes

theorem records_start (declaredBy : String) (aspect governor : TypeName) :
    Records (start declaredBy aspect governor) [] where
  names_eq := rfl
  mem_iff := fun t => by simp [start, build, CompanionUnit.referencedTypes]

/-- A draft records the types that a member claims for itself. -/
theorem Records.addImports {d d' : Draft} {history types mentioned : List TypeName}
    (h : Records d history) (haspect : d'.aspect = d.aspect) (hgovernor : d'.governor = d.governor)
    (hnames : d'.names = d.names.addImports types)
    (htypes : ∀ t, t ∈ types ↔ t ∈ mentioned)
    (hmem : ∀ t, t ∈ d'.build.referencedTypes ↔ t ∈ d.build.referencedTypes ∨ t ∈ mentioned) :
    Records d' (history ++ types) where
  names_eq := by
    rw [hnames, h.names_eq, haspect, hgovernor, NameTable.forUnit, NameTable.forUnit,
      NameTable.addImports, NameTable.addImports, NameTable.addImports, NameTable.claimAll_append]
  mem_iff := fun t => by
    rw [List.mem_append, h.mem_iff, htypes, hmem]

/-- Every type that appears in the unit has claimed its simple name. -/
theorem Records.exists_owner {d : Draft} {history : List TypeName} (h : Records d history)
    {t : TypeName} (ht : t ∈ d.governor :: d.build.referencedTypes) :
    ∃ u, d.names.owner? t.simpleName = some u := by
  refine Option.isSome_iff_exists.mp ?_
  rw [h.names_eq, NameTable.owner?_forUnit]
  split
  · rfl
  · split
    · rfl
    next hg =>
      rcases List.mem_cons.mp ht with rfl | ht
      · exact absurd rfl hg
      · rw [List.find?_isSome]
        exact ⟨t, (h.mem_iff t).mpr ht, by simp⟩

/-- A taken member adds the claims of its types to the history. -/
theorem Takes.records {d d' : Draft} (h : Takes d d') {history : List TypeName}
    (hd : Records d history) : ∃ types, Records d' (history ++ types) := by
  cases h with
  | @field f types _ mentioned =>
      refine ⟨types, hd.addImports rfl rfl rfl mentioned fun t => ?_⟩
      simp only [build, CompanionUnit.referencedTypes, List.flatMap_append, List.flatMap_cons,
        List.flatMap_nil, List.append_nil, List.mem_append]
      tauto
  | @method m types _ mentioned =>
      refine ⟨types, hd.addImports rfl rfl rfl mentioned fun t => ?_⟩
      simp only [build, CompanionUnit.referencedTypes, List.flatMap_append, List.flatMap_cons,
        List.flatMap_nil, List.append_nil, List.mem_append]
      tauto
  | @mark a types mentioned =>
      refine ⟨types, hd.addImports rfl rfl rfl mentioned fun t => ?_⟩
      simp only [build, CompanionUnit.referencedTypes, List.flatMap_append, List.flatMap_cons,
        List.flatMap_nil, List.append_nil, List.mem_append]
      tauto

/-- Taking in a member leaves the aspect and the governor. -/
theorem Takes.aspect_governor {d d' : Draft} (h : Takes d d') :
    d'.aspect = d.aspect ∧ d'.governor = d.governor := by
  cases h with
  | field => exact ⟨rfl, rfl⟩
  | method => exact ⟨rfl, rfl⟩
  | mark => exact ⟨rfl, rfl⟩

section Start

variable (declaredBy : String) (aspect governor : TypeName) (es : List Edit)

/-- After every history of edits, the table is made by the claims of the types that the members
mention. -/
theorem exists_records_applyAllIn :
    ∃ history, Records (applyAllIn o (start declaredBy aspect governor) es) history := by
  refine takesAll_invariant (P := fun d => ∃ history, Records d history) ?_
    (takesAll_applyAllIn o _ es) ⟨[], records_start declaredBy aspect governor⟩
  rintro d d' h ⟨history, hd⟩
  obtain ⟨types, hd'⟩ := h.records hd
  exact ⟨history ++ types, hd'⟩

/-- No history of edits changes the aspect or the governor. -/
theorem aspect_governor_applyAllIn :
    (applyAllIn o (start declaredBy aspect governor) es).aspect = aspect ∧
      (applyAllIn o (start declaredBy aspect governor) es).governor = governor := by
  refine takesAll_invariant (P := fun d => d.aspect = aspect ∧ d.governor = governor) ?_
    (takesAll_applyAllIn o _ es) ⟨rfl, rfl⟩
  rintro d d' h ⟨ha, hg⟩
  exact ⟨h.aspect_governor.1.trans ha, h.aspect_governor.2.trans hg⟩

end Start

end Draft

end AuditAspects
