import AuditAspects.Proofs.ClassHistory
import AuditAspects.Proofs.DeclaredMethods

/-!
# What classes have of their own

A class has its package, its project module and its methods from its own body and its own
options, and its configuration from the last marker that was put on itself.  None of them
comes from a class above it, with one exception: the first body on the way up that binds the
operation which answers a question answers it (`ClassRecord.bound?`).

`ClassRecord.Faithful` says what the definition of a class makes of it, and every class of a
history is faithful (`History.faithful`).  `OwnData` puts this together with the markers and
with what a production leaves out.
-/

namespace AuditAspects

/-! ## What a body and its options give -/

namespace OptionsClause

variable (clause : OptionsClause) (body : Body)

/-- The options that a clause gives, the default ones where there are none. -/
def options : EntityOptions :=
  match clause.resolve body with
  | .ok own => (own.getD none).getD {}
  | .error _ => {}

/-- The package that it gives. -/
def package : Value := (clause.options body).package.getD (.text EntityOptions.defaultPackage)

/-- The project module that it gives. -/
def moduleName : Value := (clause.options body).moduleName.getD (.text "")

/-- What it gives as declared methods. -/
def declared : Value := (clause.options body).declaredMethods.getD (.list [])

/-- The methods that are written in the body. -/
def written : List String := (clause.restrict body).writtenMethods

/-- The methods that both declare, each once. -/
def methods : Except Fault (List Value) :=
  (Contract.listMethods (clause.declared body)).bind fun given =>
    match given.find? fun v => !v.isCollectable with
    | some v => .error (.notCollectable v.kindName)
    | none => .ok (((clause.written body).map Value.text ++ given).eraseDupsBy Value.sameItem)

end OptionsClause

namespace ClassRecord

/-- The binding that answers a question, the first one on the way up. -/
def bound? (r : ClassRecord) (q : Question) : Option Binding :=
  r.bodies.findSome? fun body => body.binding? q.operation

/-- A class takes the answer to a question from above. -/
def InheritsAnswer (r : ClassRecord) (q : Question) : Prop :=
  r.body.binding? q.operation = none ∧ (r.bound? q).isSome

/-- Two classes are made of the same, and neither takes the answer to a question from above. -/
structure AlikeFor (r r' : ClassRecord) (q : Question) : Prop where
  body : r.body = r'.body
  clause : r.clause = r'.clause
  own : ¬r.InheritsAnswer q
  own' : ¬r'.InheritsAnswer q

/-- A class that says nothing about options, or that there are none. -/
def GivesNoOptions (r : ClassRecord) : Prop :=
  r.clause.resolve r.body = .ok none ∨ r.clause.resolve r.body = .ok (some none)

/-- A class is made of its own body and its own options, and of the answers that are bound on
the way up. -/
structure Faithful (r : ClassRecord) : Prop where
  package : r.contract.givenPackage = r.clause.package r.body
  moduleName : r.contract.givenModule = r.clause.moduleName r.body
  declared : Contract.listMethods (r.clause.declared r.body) = .ok r.contract.givenMethods
  written : r.contract.bodyMethods = r.clause.written r.body
  answers : ∀ q, r.contract.answers.lookup q = r.bound? q

theorem faithful_entity : ClassRecord.entity.Faithful where
  package := rfl
  moduleName := rfl
  declared := rfl
  written := rfl
  answers q := by cases q <;> rfl

end ClassRecord

/-! ## Definitions -/

theorem lookup_filterMap_questions (f : Question → Option Binding) (q : Question)
    (qs : List Question) :
    (qs.filterMap fun q => (f q).map (q, ·)).lookup q = if q ∈ qs then f q else none := by
  induction qs with
  | nil => rfl
  | cons q' qs ih =>
      rw [List.filterMap_cons]
      by_cases h : q = q'
      · subst h
        cases hf : f q with
        | none => simp [ih, hf]
        | some b => simp
      · have hmem : q ∈ q' :: qs ↔ q ∈ qs := by simp [h]
        simp only [hmem]
        cases hf : f q' with
        | none => exact ih
        | some b =>
            rw [Option.map_some, List.lookup_cons, beq_false_of_ne h]
            exact ih

/-- A body answers a question by what the name of its operation is bound to. -/
theorem Body.lookup_answers (body : Body) (q : Question) :
    body.answers.lookup q = body.binding? q.operation := by
  rw [Body.answers, lookup_filterMap_questions fun q => body.binding? q.operation,
    if_pos q.mem_all]

namespace ClassRecord

/-- What a class binds for a question is bound in its own body, or else above. -/
theorem bound?_eq (r : ClassRecord) (q : Question) :
    r.bound? q =
      (r.body.binding? q.operation).or
        (r.above.findSome? fun body => body.binding? q.operation) := by
  rw [bound?, bodies, List.findSome?_cons]
  cases r.body.binding? q.operation <;> rfl

/-- A class that is defined from a faithful one is faithful to its own body. -/
theorem faithful_of_ofSpec {r above : ClassRecord} {id : Nat} {name : String} (h : above.Faithful)
    (habove : r.above = above.bodies)
    (hc : Contract.ofSpec id ⟨name, above.contract, r.body, r.clause⟩ = .ok r.contract) :
    r.Faithful := by
  have hanswers : ∀ q, (r.body.answers ++ above.contract.answers).lookup q = r.bound? q := by
    intro q
    rw [List.lookup_append, Body.lookup_answers, h.answers, r.bound?_eq, habove]
    rfl
  have hdeclared : r.clause.declared r.body =
      (r.clause.options r.body).declaredMethods.getD (.list []) := rfl
  simp only [Contract.ofSpec] at hc
  cases hown : r.clause.resolve r.body with
  | error f =>
      rw [hown] at hc
      cases hc
  | ok own =>
      have hoptions : r.clause.options r.body = (own.getD none).getD {} := by
        rw [OptionsClause.options, hown]
      simp only [hown, bind, Except.bind] at hc
      rw [← hoptions, ← hdeclared] at hc
      cases hmethods : Contract.listMethods (r.clause.declared r.body) with
      | error f =>
          rw [hmethods] at hc
          cases hc
      | ok methods =>
          rw [hmethods] at hc
          simp only at hc
          split at hc
          · cases hc
          · have heq := Except.ok.inj hc
            exact ⟨heq ▸ rfl, heq ▸ rfl, heq ▸ hmethods, heq ▸ rfl, heq ▸ hanswers⟩

end ClassRecord

/-- Every class of a history is faithful to what it is made of. -/
theorem History.faithful (h : History) : ∀ r ∈ h.catalogue.classes, r.Faithful := by
  induction h with
  | start =>
      intro r hr
      rw [List.mem_singleton.mp hr]
      exact ClassRecord.faithful_entity
  | next earlier d ih =>
      intro r hr
      rcases List.mem_append.mp hr with hr | hr
      · exact ih r hr
      · obtain ⟨name, base, above, -, habove, hc, hbodies⟩ :=
          Catalogue.defined?_eq_some (Option.mem_toList.mp hr)
        exact ClassRecord.faithful_of_ofSpec (ih above (List.mem_of_getElem? habove)) hbodies hc

/-! ## Configurations -/

/-- The configuration of the last marker that was put on the class of an identity. -/
def History.lastConfig : History → Nat → Option Config
  | start, _ => none
  | next earlier d, i =>
      match earlier.catalogue.marked? d with
      | some (c, config) => if i = c.id then some config else earlier.lastConfig i
      | none => earlier.lastConfig i

/-- Nothing has been attached to classes yet to come. -/
theorem History.lastConfig_eq_none (h : History) {i : Nat} (hi : h.catalogue.store.nextId ≤ i) :
    h.lastConfig i = none := by
  induction h with
  | start => rfl
  | next earlier d ih =>
      have hearlier : earlier.catalogue.store.nextId ≤ i := by
        refine Nat.le_trans ?_ hi
        rw [History.catalogue, Catalogue.nextId_apply]
        exact Nat.le_add_right _ _
      rw [lastConfig]
      split
      next c config hc =>
        have hlt := earlier.sound.id_lt (earlier.sound.knows_of_marked? hc)
        rw [if_neg (Nat.ne_of_gt (Nat.lt_of_lt_of_le hlt hearlier))]
        exact ih hearlier
      · exact ih hearlier

/-- To a new class only what its body binds is attached. -/
theorem Catalogue.Sound.attached_defined {cat : Catalogue} (h : cat.Sound) {d : Deed}
    {r : ClassRecord} (hr : cat.defined? d = some r) :
    (cat.apply d).store.attached r.contract = r.ownMark := by
  obtain ⟨name, base, -, hd, -⟩ := Catalogue.defined?_eq_some hr
  have hclean : cat.store.attachedTo r.contract.id = .foreign .null :=
    h.clean _ (Nat.le_of_eq (Catalogue.id_defined? hr).symm)
  rw [ClassRecord.ownMark, hd, Catalogue.store_define, ← hd, hr]
  cases hb : r.body.binding? markName with
  | none =>
      simp only [hb]
      exact hclean
  | some b =>
      simp only [hb]
      exact (attachedTo_cons cat.store _ _ _).trans (if_pos rfl)

/-- A class has the configuration of the last marker that was put on it, and until then what
its body leaves in the place of one. -/
theorem History.attached_eq (h : History) {r : ClassRecord} (hr : r ∈ h.catalogue.classes) :
    h.catalogue.store.attached r.contract =
      (h.lastConfig r.contract.id).elim r.ownMark .proper := by
  induction h with
  | start =>
      rw [List.mem_singleton.mp hr]
      rfl
  | next earlier d ih =>
      have hid : ∀ r' : ClassRecord, earlier.catalogue.defined? d = some r' →
          r'.contract.id = earlier.catalogue.store.nextId := fun _ => Catalogue.id_defined?
      rcases List.mem_append.mp hr with hr | hr
      · have hlt := earlier.sound.id_lt ⟨r, hr, rfl⟩
        have happly := Catalogue.attachedTo_apply d fun r' hr' => Nat.ne_of_lt (hid r' hr' ▸ hlt)
        rw [lastConfig]
        refine happly.trans ?_
        cases earlier.catalogue.marked? d with
        | none => exact ih hr
        | some e =>
            by_cases heq : r.contract.id = e.1.id
            · simp only [heq, ↓reduceIte]
              rfl
            · simp only [heq, ↓reduceIte]
              exact ih hr
      · have hr := Option.mem_toList.mp hr
        obtain ⟨name, base, -, rfl, -⟩ := Catalogue.defined?_eq_some hr
        have hnone : earlier.lastConfig r.contract.id = none :=
          earlier.lastConfig_eq_none (Nat.le_of_eq (hid r hr).symm)
        rw [lastConfig]
        refine (earlier.sound.attached_defined hr).trans ?_
        simp only [Catalogue.marked?, hnone]
        rfl

/-! ## Methods -/

/-- A method is written in a body if its name is bound to a function in the end. -/
theorem OptionsClause.mem_written_iff {clause : OptionsClause} {body : Body} {name : String}
    (h : Body.isPublicName name = true) (hname : name ≠ optionsName) :
    name ∈ clause.written body ↔ ∃ b, body.binding? name = some b ∧ b.isWritten = true := by
  rw [written, Body.mem_writtenMethods_iff h]
  cases clause with
  | absent => rfl
  | cleared | given own | derived own other => simp only [restrict, Body.binding?_without hname]

namespace ClassRecord.Faithful

variable {r : ClassRecord} {names : List String}

/-- The methods that options declare are those of the class itself. -/
theorem givenMethods_eq (h : r.Faithful) (hnames : Declares (r.clause.declared r.body) names) :
    r.contract.givenMethods = names.map .text :=
  Except.ok.inj (h.declared.symm.trans hnames.listMethods_eq)

/-- A target declares what the body writes and the options name. -/
theorem declares_eq (h : r.Faithful) (hanswer : r.bound? .methods = none)
    (hnames : Declares (r.clause.declared r.body) names) (name : String) :
    r.contract.target.declares name =
      .ok (decide (name ∈ r.clause.written r.body ∨ name ∈ names)) := by
  rw [Contract.declares_of_texts ((h.answers _).trans hanswer) (h.givenMethods_eq hnames),
    h.written]

/-- A class that declares its methods by name gets the getters that it has neither written nor
declared. -/
theorem exists_bundle (h : r.Faithful) (hanswer : r.bound? .methods = none)
    (hnames : Declares (r.clause.declared r.body) names) (config : Config) (log : List Record) :
    ∃ bundle, (produce (.proper r.contract.target) (.proper config)).result log = .ok bundle ∧
      ∀ g ∈ auditGetters, g ∈ bundle.methods.map Method.name ↔
        ¬(∃ b, r.body.binding? g = some b ∧ b.isWritten = true) ∧ g ∉ names := by
  obtain ⟨bundle, hbundle, hgetters⟩ := Contract.result_produce_of_texts
    ((h.answers _).trans hanswer) (h.givenMethods_eq hnames) config log
  refine ⟨bundle, hbundle, fun g hg => ?_⟩
  obtain ⟨hpublic, hname⟩ := isPublicName_of_mem_auditGetters g hg
  rw [hgetters g hg, h.written, OptionsClause.mem_written_iff hpublic hname]

end ClassRecord.Faithful

/-! ## The data of a class -/

namespace ClassRecord

variable {r r' : ClassRecord}

/-- A class that inherits no answer has those of its own body. -/
theorem bound?_of_own {q : Question} (h : ¬r.InheritsAnswer q) :
    r.bound? q = r.body.binding? q.operation := by
  cases hb : r.body.binding? q.operation with
  | some b => rw [bound?_eq, hb, Option.some_or]
  | none => exact Option.not_isSome_iff_eq_none.mp fun hbound => h ⟨hb, hbound⟩

/-- Classes that are alike for a question bind the same for it. -/
theorem AlikeFor.bound?_eq {q : Question} (h : r.AlikeFor r' q) : r.bound? q = r'.bound? q := by
  rw [bound?_of_own h.own, bound?_of_own h.own', h.body]

/-- A faithful class answers by what it binds. -/
theorem Faithful.answer?_eq (h : r.Faithful) (q : Question) :
    r.contract.answer? q = (r.bound? q).map (Binding.call q.operation) := by
  rw [Contract.answer?, h.answers]

theorem Faithful.getD_answer?_eq (h : r.Faithful) (q : Question) (given : Except Fault Value) :
    (r.contract.answer? q).getD given = (r.bound? q).elim given (Binding.call q.operation) := by
  rw [h.answer?_eq]
  cases r.bound? q <;> rfl

/-- The package is answered by a binding, or else given by the clause. -/
theorem Faithful.package_eq (h : r.Faithful) : r.contract.package =
    (r.bound? .package).elim (.ok (r.clause.package r.body)) (Binding.call "get_package") := by
  rw [Contract.package, h.package]
  exact h.getD_answer?_eq .package _

theorem Faithful.moduleName_eq (h : r.Faithful) : r.contract.moduleName =
    (r.bound? .moduleName).elim (.ok (r.clause.moduleName r.body)) (Binding.call "get_module") := by
  rw [Contract.moduleName, h.moduleName]
  exact h.getD_answer?_eq .moduleName _

/-- The methods collected are those of the clause and the body. -/
theorem Faithful.collectedMethods_eq (h : r.Faithful) :
    r.contract.collectedMethods = r.clause.methods r.body := by
  rw [Contract.collectedMethods, OptionsClause.methods, h.declared, h.written]
  rfl

/-- The methods are answered by a binding, or else collected. -/
theorem Faithful.methods_eq (h : r.Faithful) : r.contract.methods =
    (r.bound? .methods).elim ((r.clause.methods r.body).map .list)
      (Binding.call "get_declared_methods") := by
  rw [Contract.methods, h.collectedMethods_eq]
  exact h.getD_answer?_eq .methods _

theorem GivesNoOptions.options_eq (h : r.GivesNoOptions) : r.clause.options r.body = {} := by
  rcases h with h | h
  · rw [OptionsClause.options, h]
    rfl
  · rw [OptionsClause.options, h]
    rfl

end ClassRecord

/-- What the classes of a history have of their own. -/
structure OwnData (h : History) : Prop where
  /-- The package is given by the options of the class, unless a body answers for it. -/
  package : ∀ r ∈ h.catalogue.classes, r.contract.package =
    (r.bound? .package).elim (.ok (r.clause.package r.body)) (Binding.call "get_package")
  /-- So is the project module. -/
  moduleName : ∀ r ∈ h.catalogue.classes, r.contract.moduleName =
    (r.bound? .moduleName).elim (.ok (r.clause.moduleName r.body)) (Binding.call "get_module")
  /-- The methods are given by the body and the options of the class, with the same
  exception. -/
  methods : ∀ r ∈ h.catalogue.classes, r.contract.methods =
    (r.bound? .methods).elim ((r.clause.methods r.body).map .list)
      (Binding.call "get_declared_methods")
  /-- So classes that are made of the same have the same data, unless a body above answers. -/
  alike : ∀ r ∈ h.catalogue.classes, ∀ r' ∈ h.catalogue.classes,
    (r.AlikeFor r' .package → r.contract.package = r'.contract.package) ∧
      (r.AlikeFor r' .moduleName → r.contract.moduleName = r'.contract.moduleName) ∧
      (r.AlikeFor r' .methods → r.contract.methods = r'.contract.methods)
  /-- A class without options has the default ones, whatever a class above has. -/
  defaults : ∀ r ∈ h.catalogue.classes, r.GivesNoOptions →
    (r.bound? .package = none → r.contract.package = .ok (.text "com.example.domain")) ∧
      (r.bound? .moduleName = none → r.contract.moduleName = .ok (.text "")) ∧
      (r.bound? .methods = none → ∀ name,
        r.contract.target.declares name = .ok (decide (name ∈ r.clause.written r.body)))
  /-- A class has the configuration of the last marker that was put on itself. -/
  attached : ∀ r ∈ h.catalogue.classes, h.catalogue.store.attached r.contract =
    (h.lastConfig r.contract.id).elim r.ownMark .proper
  /-- A production adds the getters that the class has neither written nor declared. -/
  getters : ∀ r ∈ h.catalogue.classes, r.bound? .methods = none →
    ∀ names, Declares (r.clause.declared r.body) names → ∀ config log,
      ∃ bundle, (produce (.proper r.contract.target) (.proper config)).result log = .ok bundle ∧
        ∀ g ∈ auditGetters, g ∈ bundle.methods.map Method.name ↔
          ¬(∃ b, r.body.binding? g = some b ∧ b.isWritten = true) ∧ g ∉ names

/-- Classes have their data of their own, whatever has been done. -/
theorem ownData (h : History) : OwnData h where
  package r hr := (h.faithful r hr).package_eq
  moduleName r hr := (h.faithful r hr).moduleName_eq
  methods r hr := (h.faithful r hr).methods_eq
  alike r hr r' hr' := by
    have hfaithful := h.faithful r hr
    have hfaithful' := h.faithful r' hr'
    refine ⟨fun halike => ?_, fun halike => ?_, fun halike => ?_⟩
    · rw [hfaithful.package_eq, hfaithful'.package_eq, halike.bound?_eq, halike.body, halike.clause]
    · rw [hfaithful.moduleName_eq, hfaithful'.moduleName_eq, halike.bound?_eq, halike.body,
        halike.clause]
    · rw [hfaithful.methods_eq, hfaithful'.methods_eq, halike.bound?_eq, halike.body, halike.clause]
  defaults r hr hnone := by
    have hfaithful := h.faithful r hr
    have hoptions := hnone.options_eq
    refine ⟨fun hbound => ?_, fun hbound => ?_, fun hbound name => ?_⟩
    · rw [hfaithful.package_eq, hbound, OptionsClause.package, hoptions]
      rfl
    · rw [hfaithful.moduleName_eq, hbound, OptionsClause.moduleName, hoptions]
      rfl
    · have hdeclared : Declares (r.clause.declared r.body) [] := by
        rw [OptionsClause.declared, hoptions]
        exact .several []
      rw [hfaithful.declares_eq hbound hdeclared]
      simp only [List.not_mem_nil, or_false]
  attached _ hr := h.attached_eq hr
  getters r hr hbound _ hnames config log :=
    (h.faithful r hr).exists_bundle hbound hnames config log

/-- Two classes with the same body and the same options, of which one derives from a class
that binds an answer. -/
def inheritedPackage : History :=
  ((History.start.next (.define "A" 0 [("get_package", .staticFunction (.text "x"))] .absent)).next
    (.define "B" 1 [] (.given { package := some (.text "y") }))).next
    (.define "C" 0 [] (.given { package := some (.text "y") }))

/-- The answer that is bound above comes before the options of the class itself. -/
theorem package_inherited :
    ∃ b c, inheritedPackage.catalogue.classes[2]? = some b ∧
      inheritedPackage.catalogue.classes[3]? = some c ∧ b.body = c.body ∧ b.clause = c.clause ∧
      b.contract.package = .ok (.text "x") ∧ c.contract.package = .ok (.text "y") :=
  ⟨_, _, rfl, rfl, rfl, rfl, rfl, rfl⟩

end AuditAspects
