import AuditAspects.Proofs.GrownStores

/-!
# Histories of classes

A program defines classes, puts markers on them, registers them by hand and clears the
registry, and any of these deeds may fail.  A `History` is a row of such deeds, and its
`Catalogue` is what they leave: the store, and all classes that were defined, each with what
it was made of.

Three equations say what one deed does: it adds the class that it defines
(`Catalogue.apply`), it enters the class that it tries to register (`registry_apply`), and
it attaches the configuration of the marker that it puts on a class (`attachedTo_apply`).
Classes are numbered in the order of their definition, and the number of a class is its
identity (`History.sound`).
-/

namespace AuditAspects

/-! ## Catalogues -/

/-- A class with what it was made of. -/
structure ClassRecord where
  /-- The class. -/
  contract : Contract
  /-- Its body. -/
  body : Body
  /-- What the body says about options. -/
  clause : OptionsClause
  /-- The bodies of the classes that it derives from, the nearest first. -/
  above : List Body

namespace ClassRecord

/-- The base of all entities. -/
def entity : ClassRecord := ⟨.entity, [], .given .base, []⟩

/-- The bodies that a name is looked up in. -/
def bodies (r : ClassRecord) : List Body := r.body :: r.above

/-- What the body leaves in the place of a configuration.  A body that binds a configuration
itself is not expressed. -/
def ownMark (r : ClassRecord) : Offered Config :=
  .foreign ((r.body.binding? markName).elim .null Binding.asValue)

end ClassRecord

/-- A store, and all classes so far in the order of their definition. -/
structure Catalogue where
  /-- The store. -/
  store : Store := {}
  /-- The classes. -/
  classes : List ClassRecord := [.entity]

/-- What a marker is put on, or what is to be registered. -/
inductive Reference
  /-- The class of a number, zero for the base of all entities. -/
  | numbered (k : Nat)
  /-- A class that is no entity. -/
  | plainClass (name : String)
  /-- Some other value. -/
  | value (v : Value)

/-- What a program does with classes and the registry. -/
inductive Deed
  /-- It defines a class that derives from the class of a number. -/
  | define (name : String) (base : Nat) (body : Body) (clause : OptionsClause)
  /-- It puts a marker on something. -/
  | audit (m : Marker) (x : Reference)
  /-- It registers something by hand. -/
  | register (x : Reference)
  /-- It clears the registry. -/
  | clear
  /-- It changes a copy of the registry. -/
  | changeCopy (change : Roll → Roll)

namespace Catalogue

/-- The class of a number. -/
def record (cat : Catalogue) (k : Nat) : Except Fault ClassRecord :=
  match cat.classes[k]? with
  | some r => .ok r
  | none => .error (.nameUnbound (toString k))

/-- What a reference stands for. -/
def subject (cat : Catalogue) : Reference → Except Fault Subject
  | .numbered k => (cat.record k).map (.contract ·.contract)
  | .plainClass name => .ok (.plainClass name)
  | .value v => .ok (.value v)

/-- What a deed does to the store. -/
def task (cat : Catalogue) : Deed → Step Store Unit
  | .define name base body clause => do
      let above ← Step.ofExcept (cat.record base)
      let _ ← Store.define ⟨name, above.contract, body, clause⟩
  | .audit m x => do
      let subject ← Step.ofExcept (cat.subject x)
      Store.audit m subject
  | .register x => do
      let subject ← Step.ofExcept (cat.subject x)
      let c ← Step.ofExcept (subject.contractFor Question.type.operation)
      Store.register c
  | .clear => Store.clear
  | .changeCopy change => do
      let _copy := change (← get).registry

/-- How a deed ends. -/
def ending (cat : Catalogue) (d : Deed) : Except Fault Unit :=
  (cat.task d).result cat.store

/-- The class that a deed defines. -/
def defined? (cat : Catalogue) : Deed → Option ClassRecord
  | .define name base body clause =>
      match cat.record base with
      | .ok above =>
          ((Store.define ⟨name, above.contract, body, clause⟩).result cat.store).toOption.map
            fun c => ⟨c, body, clause, above.bodies⟩
      | .error _ => none
  | _ => none

/-- The catalogue after a deed, whether or not it fails. -/
def apply (cat : Catalogue) (d : Deed) : Catalogue where
  store := (cat.task d).after cat.store
  classes := cat.classes ++ (cat.defined? d).toList

/-- A class is one of those that were defined. -/
def Knows (cat : Catalogue) (c : Contract) : Prop :=
  ∃ r : ClassRecord, r ∈ cat.classes ∧ r.contract = c

/-- The classes that are registered. -/
def registered (cat : Catalogue) : List Contract := cat.store.registry.map Prod.snd

/-! ## What a deed is about -/

/-- The class that a reference stands for. -/
def contract? (cat : Catalogue) : Reference → Option Contract
  | .numbered k => cat.classes[k]?.map ClassRecord.contract
  | _ => none

/-- The class that a deed tries to register. -/
def tried? (cat : Catalogue) : Deed → Option Contract
  | .audit m x => (Store.readMarker m).toOption.bind fun _ => cat.contract? x
  | .register x => cat.contract? x
  | _ => none

/-- The class that a deed puts a marker on, with the configuration of the marker. -/
def marked? (cat : Catalogue) : Deed → Option (Contract × Config)
  | .audit m x => (Store.readMarker m).toOption.bind fun config =>
      (cat.contract? x).map fun c => (c, config)
  | _ => none

end Catalogue

/-- A row of deeds, from an empty store on. -/
inductive History
  /-- Nothing is done yet. -/
  | start
  /-- One more deed. -/
  | next (earlier : History) (d : Deed)

/-- What a history leaves. -/
def History.catalogue : History → Catalogue
  | start => {}
  | next earlier d => earlier.catalogue.apply d

/-! ## Entering one class -/

/-- The name of the type of a class, if it has one. -/
def Contract.typeName? (c : Contract) : Option String := c.type.toOption.map TypeName.name

theorem Contract.typeName?_eq_some_iff {c : Contract} {name : String} :
    c.typeName? = some name ↔ c.Named name := by
  rw [typeName?, Named]
  cases c.type <;> simp [Except.toOption]

/-- The roll after a registration, which stays as it is if that is refused. -/
def Roll.entered (r : Roll) (c : Contract) : Roll :=
  (r.enter c).toOption.getD r

section Entered

variable {r : Roll} {c : Contract}

theorem Roll.entered_of_ok {r' : Roll} (h : r.enter c = .ok r') : r.entered c = r' := by
  rw [Roll.entered, h]
  rfl

theorem Roll.entered_of_error {f : Fault} (h : r.enter c = .error f) : r.entered c = r := by
  rw [Roll.entered, h]
  rfl

theorem Roll.Distinct.entered (h : r.Distinct) : (r.entered c).Distinct := by
  cases hc : r.enter c with
  | error f => rwa [Roll.entered_of_error hc]
  | ok r' =>
      rw [Roll.entered_of_ok hc]
      exact h.enter hc

/-- What is on a roll after an entry was there before, or is what was entered. -/
theorem Roll.mem_entered {e : String × Contract} (h : e ∈ r.entered c) :
    e ∈ r ∨ e.2 = c ∧ c.Named e.1 := by
  cases hc : r.enter c with
  | error f =>
      rw [Roll.entered_of_error hc] at h
      exact .inl h
  | ok r' =>
      rw [Roll.entered_of_ok hc] at h
      obtain ⟨t, ht, ⟨-, rfl⟩ | ⟨-, -, -, rfl⟩⟩ := Roll.enter_eq_ok hc
      · rcases List.mem_append.mp h with h | h
        · exact .inl h
        · rw [List.mem_singleton.mp h]
          exact .inr ⟨rfl, t, ht, rfl⟩
      · exact .inl h

/-- The first class of a name keeps it. -/
theorem Roll.lookup_entered (name : String) :
    (r.entered c).lookup name =
      (r.lookup name).or (if c.typeName? = some name then some c else none) := by
  by_cases hname : c.typeName? = some name
  · obtain ⟨t, ht, rfl⟩ := Contract.typeName?_eq_some_iff.mp hname
    rw [if_pos hname]
    cases hl : r.lookup t.name with
    | some holder =>
        have hkept : r.entered c = r := by
          rw [Roll.entered, Roll.enter, ht]
          simp only [hl]
          split <;> rfl
        rw [hkept, hl, Option.some_or]
    | none =>
        have hnew : r.entered c = r ++ [(t.name, c)] := by
          rw [Roll.entered, Roll.enter, ht]
          simp only [hl]
          rfl
        rw [hnew, List.lookup_append, hl, Option.none_or, Option.none_or, List.lookup_cons_self]
  · rw [if_neg hname, Option.or_none]
    cases hc : r.enter c with
    | error f => rw [Roll.entered_of_error hc]
    | ok r' =>
        rw [Roll.entered_of_ok hc]
        obtain ⟨t, ht, ⟨-, rfl⟩ | ⟨-, -, -, rfl⟩⟩ := Roll.enter_eq_ok hc
        · have hne : name ≠ t.name := fun heq =>
            hname (Contract.typeName?_eq_some_iff.mpr ((Contract.named_iff ht).mpr heq))
          rw [List.lookup_append, List.lookup_cons, beq_false_of_ne hne]
          exact Option.or_none ..
        · rfl

theorem Roll.enter_map_eq_error_iff {f : Fault} :
    ((r.enter c).map fun _ => ()) = .error f ↔ r.enter c = .error f := by
  cases r.enter c <;> simp [Except.map]

theorem Roll.enter_map_eq_ok_iff :
    ((r.enter c).map fun _ => ()) = .ok () ↔ ∃ r', r.enter c = .ok r' := by
  cases r.enter c <;> simp [Except.map]

/-- In a roll of contracts by their names, a contract is refused exactly if it has no name or a
different contract of the roll has its name. -/
theorem Roll.Distinct.enter_eq_error_iff (h : r.Distinct) (hnamed : ∀ e ∈ r, e.2.Named e.1)
    {f : Fault} : r.enter c = .error f ↔ Refused (r.map Prod.snd) c f := by
  constructor
  · intro hc
    rcases Roll.enter_eq_error hc with htype | ⟨t, holder, ht, hholder, hid, rfl⟩
    · exact .unnamed htype
    · have hmem := h.lookup_eq_some_iff.mp hholder
      exact .clash ⟨⟨t, ht, rfl⟩, holder, List.mem_map_of_mem hmem, hnamed _ hmem, hid⟩
  · rintro (htype | ⟨⟨t, ht, rfl⟩, d, hd, ⟨u, hu, hname⟩, hid⟩)
    · rw [Roll.enter, htype]
    · obtain ⟨e, he, rfl⟩ := List.mem_map.mp hd
      have hkey : e.1 = t.name := ((Contract.named_iff hu).mp (hnamed e he)).trans hname
      have hholder : r.lookup t.name = some e.2 := h.lookup_eq_some_iff.mpr (hkey ▸ he)
      rw [Roll.enter, ht]
      simp only [hholder, if_neg hid]

end Entered

/-! ## One deed -/

namespace Store

variable (m : Marker) (c : Contract) (s : Store)

/-- Registering changes the registry alone, by the entry if that goes well. -/
theorem after_register_entered :
    (register c).after s = { s with registry := Roll.entered s.registry c } := by
  rw [after_register, Roll.entered]
  cases Roll.enter s.registry c <;> rfl

/-- An audit reads its marker first, then looks at what it is put on, and only then registers.
-/
theorem result_audit (x : Subject) :
    (audit m x).result s =
      match readMarker m, x with
      | .error f, _ => .error f
      | .ok _, .contract c => (Roll.enter s.registry c).map fun _ => ()
      | .ok _, x => .error (.notAuditable x.quoted) := by
  rw [audit, Step.result_bind, Step.result_ofExcept, Step.after_ofExcept]
  cases readMarker m with
  | error f => rfl
  | ok config =>
      cases x with
      | contract c => exact result_register c _
      | plainClass name => rfl
      | value v => rfl

/-- A marker is attached before the class is registered. -/
theorem after_audit (x : Subject) :
    (audit m x).after s =
      match readMarker m, x with
      | .ok config, .contract c =>
          { s with
            registry := Roll.entered s.registry c
            marks := (c.id, .proper config) :: s.marks }
      | _, _ => s := by
  rw [audit, Step.after_bind, Step.result_ofExcept, Step.after_ofExcept]
  cases readMarker m with
  | error f => rfl
  | ok config =>
      cases x with
      | contract c => exact after_register_entered c _
      | plainClass name => rfl
      | value v => rfl

end Store

namespace Catalogue

variable {cat : Catalogue}

/-- A reference stands for a contract exactly if what it refers to is one. -/
theorem contract?_eq (x : Reference) :
    cat.contract? x =
      match cat.subject x with
      | .ok (.contract c) => some c
      | _ => none := by
  cases x with
  | numbered k =>
      rw [subject, record, contract?]
      cases cat.classes[k]? <;> rfl
  | plainClass name => rfl
  | value v => rfl

/-- An audit by reference ends as the audit of what is referred to. -/
theorem ending_audit (m : Marker) (x : Reference) :
    cat.ending (.audit m x) =
      match cat.subject x with
      | .ok subject => (Store.audit m subject).result cat.store
      | .error f => .error f := by
  simp only [ending, task, Step.result_bind, Step.result_ofExcept, Step.after_ofExcept]
  cases cat.subject x <;> rfl

/-- An audit of a class with a good marker ends as its registration does. -/
theorem ending_audit_of_class {m : Marker} {x : Reference} {c : Contract} {config : Config}
    (hx : cat.contract? x = some c) (hm : Store.readMarker m = .ok config) :
    cat.ending (.audit m x) = (Roll.enter cat.store.registry c).map fun _ => () := by
  rw [ending_audit]
  rw [contract?_eq] at hx
  split at hx
  next hsubject =>
    cases hx
    rw [hsubject]
    simp only [Store.result_audit, hm]
  · cases hx

/-- An audit attaches a configuration if its marker can be read and its reference stands for a
class. -/
theorem marked?_audit_eq_some_iff {m : Marker} {x : Reference} {c : Contract} {config : Config} :
    cat.marked? (.audit m x) = some (c, config) ↔
      cat.contract? x = some c ∧ Store.readMarker m = .ok config := by
  rw [marked?]
  cases Store.readMarker m with
  | error f => exact ⟨fun h => (by cases h), fun h => (by cases h.2)⟩
  | ok config' =>
      have hbind : ((Except.ok config' : Except Fault Config).toOption.bind fun config =>
          (cat.contract? x).map fun c => (c, config)) =
          (cat.contract? x).map fun c => (c, config') := rfl
      rw [hbind, Option.map_eq_some_iff]
      constructor
      · rintro ⟨c', hx, heq⟩
        cases heq
        exact ⟨hx, rfl⟩
      · rintro ⟨hx, hm⟩
        cases hm
        exact ⟨c, hx, rfl⟩

theorem store_audit (m : Marker) (x : Reference) :
    (cat.apply (.audit m x)).store =
      match cat.marked? (.audit m x) with
      | some (c, config) =>
          { cat.store with
            registry := Roll.entered cat.store.registry c
            marks := (c.id, .proper config) :: cat.store.marks }
      | none => cat.store := by
  simp only [apply, task, marked?, contract?_eq, Step.after_bind, Step.result_ofExcept,
    Step.after_ofExcept]
  cases cat.subject x with
  | error f => cases (Store.readMarker m).toOption <;> rfl
  | ok subject =>
      simp only [Store.after_audit]
      cases subject <;> cases Store.readMarker m <;> rfl

/-- Registering by reference ends as the entry of the class does. -/
theorem ending_register {x : Reference} {c : Contract} (h : cat.contract? x = some c) :
    cat.ending (.register x) = (Roll.enter cat.store.registry c).map fun _ => () := by
  simp only [ending, task, Step.result_bind, Step.result_ofExcept, Step.after_ofExcept]
  rw [contract?_eq] at h
  split at h
  next hx =>
    cases h
    rw [hx]
    exact Store.result_register c cat.store
  · cases h

theorem store_register (x : Reference) :
    (cat.apply (.register x)).store =
      match cat.contract? x with
      | some c => { cat.store with registry := Roll.entered cat.store.registry c }
      | none => cat.store := by
  simp only [apply, task, contract?_eq, Step.after_bind, Step.result_ofExcept,
    Step.after_ofExcept]
  cases cat.subject x with
  | error f => rfl
  | ok subject =>
      cases subject with
      | contract c => exact Store.after_register_entered c cat.store
      | plainClass name => rfl
      | value v => rfl

/-- The record of a class is the one with its number. -/
theorem record_eq_ok_iff {k : Nat} {r : ClassRecord} :
    cat.record k = .ok r ↔ cat.classes[k]? = some r := by
  rw [record]
  cases cat.classes[k]? <;> simp

/-- A class that is defined derives from one that was there, and takes the next identity. -/
theorem defined?_eq_some {d : Deed} {r : ClassRecord} (h : cat.defined? d = some r) :
    ∃ name base above, d = .define name base r.body r.clause ∧ cat.classes[base]? = some above ∧
      Contract.ofSpec cat.store.nextId ⟨name, above.contract, r.body, r.clause⟩ = .ok r.contract ∧
      r.above = above.bodies := by
  cases d with
  | define name base body clause =>
      rw [defined?] at h
      cases habove : cat.record base with
      | error f =>
          rw [habove] at h
          cases h
      | ok above =>
          simp only [habove, Store.result_define] at h
          cases hc : Contract.ofSpec cat.store.nextId ⟨name, above.contract, body, clause⟩ with
          | error f =>
              rw [hc] at h
              cases h
          | ok c =>
              rw [hc] at h
              cases h
              exact ⟨name, base, above, rfl, record_eq_ok_iff.mp habove, hc, rfl⟩
  | audit m x => cases h
  | register x => cases h
  | clear => cases h
  | changeCopy change => cases h

/-- A definition takes the next identity, and leaves what the body binds in the place of a
configuration. -/
theorem store_define (name : String) (base : Nat) (body : Body) (clause : OptionsClause) :
    (cat.apply (.define name base body clause)).store =
      match cat.defined? (.define name base body clause) with
      | some r =>
          { cat.store with
            marks := (r.body.binding? markName).toList.map
              (fun b => (r.contract.id, .foreign b.asValue)) ++ cat.store.marks
            nextId := cat.store.nextId + 1 }
      | none => cat.store := by
  simp only [apply, task, defined?, Step.after_bind, Step.result_ofExcept, Step.after_ofExcept]
  cases cat.record base with
  | error f => rfl
  | ok above =>
      simp only [Store.result_define, Store.after_define]
      cases Contract.ofSpec cat.store.nextId ⟨name, above.contract, body, clause⟩ with
      | error f => rfl
      | ok c => rfl

/-- Apart from clearing, a deed changes the registry only by the class that it tries to
register. -/
theorem registry_apply {d : Deed} (hd : d ≠ .clear) :
    (cat.apply d).store.registry =
      match cat.tried? d with
      | some c => Roll.entered cat.store.registry c
      | none => cat.store.registry := by
  cases d with
  | define name base body clause =>
      rw [store_define]
      cases cat.defined? (.define name base body clause) <;> rfl
  | audit m x =>
      rw [store_audit, marked?, tried?]
      cases (Store.readMarker m).toOption with
      | none => rfl
      | some config => cases cat.contract? x <;> rfl
  | register x =>
      rw [store_register, tried?]
      cases cat.contract? x <;> rfl
  | clear => exact absurd rfl hd
  | changeCopy change => rfl

/-- An attempt to register a class ends as its registration does. -/
theorem ending_of_tried? {d : Deed} {c : Contract} (hc : cat.tried? d = some c) :
    cat.ending d = (Roll.enter cat.store.registry c).map fun _ => () := by
  cases d with
  | audit m x =>
      rw [tried?] at hc
      cases hm : Store.readMarker m with
      | error f =>
          rw [hm] at hc
          cases hc
      | ok config =>
          rw [hm] at hc
          exact ending_audit_of_class hc hm
  | register x => exact ending_register hc
  | define name base body clause => cases hc
  | clear => cases hc
  | changeCopy change => cases hc

/-- A failing deed leaves the registry as it is. -/
theorem registry_apply_of_error {d : Deed} {f : Fault} (hf : cat.ending d = .error f) :
    (cat.apply d).store.registry = cat.store.registry := by
  have hd : d ≠ .clear := by
    rintro rfl
    cases hf
  rw [registry_apply hd]
  cases hc : cat.tried? d with
  | none => rfl
  | some c =>
      rw [ending_of_tried? hc, Roll.enter_map_eq_error_iff] at hf
      exact Roll.entered_of_error hf

/-- What a deed leaves registered was there before, or is the class that it tried to register.
-/
theorem mem_registry_apply {d : Deed} {e : String × Contract}
    (he : e ∈ (cat.apply d).store.registry) :
    e ∈ cat.store.registry ∨ cat.tried? d = some e.2 ∧ e.2.Named e.1 := by
  cases d with
  | clear => exact absurd he List.not_mem_nil
  | define | audit | register | changeCopy =>
      rw [registry_apply (by simp)] at he
      split at he
      next c hc =>
        rcases Roll.mem_entered he with he | ⟨rfl, hnamed⟩
        · exact .inl he
        · exact .inr ⟨hc, hnamed⟩
      · exact .inl he

/-- A deed uses up an identity exactly if it defines a class. -/
theorem nextId_apply (d : Deed) :
    (cat.apply d).store.nextId = cat.store.nextId + (cat.defined? d).toList.length := by
  cases d with
  | define name base body clause =>
      rw [store_define]
      cases cat.defined? (.define name base body clause) <;> rfl
  | audit m x =>
      rw [store_audit]
      cases cat.marked? (.audit m x) <;> rfl
  | register x =>
      rw [store_register]
      cases cat.contract? x <;> rfl
  | clear => rfl
  | changeCopy change => rfl

/-- A deed attaches the configuration of its marker to the class that it puts the marker on,
and to no other class that is there. -/
theorem attachedTo_apply (d : Deed) {i : Nat}
    (hi : ∀ r : ClassRecord, cat.defined? d = some r → i ≠ r.contract.id) :
    (cat.apply d).store.attachedTo i =
      match cat.marked? d with
      | some (c, config) => if i = c.id then .proper config else cat.store.attachedTo i
      | none => cat.store.attachedTo i := by
  cases d with
  | define name base body clause =>
      rw [store_define]
      cases hr : cat.defined? (.define name base body clause) with
      | none => rfl
      | some r =>
          have hne : i ≠ r.contract.id := hi r hr
          simp only [marked?]
          cases r.body.binding? markName with
          | none => rfl
          | some b => exact (attachedTo_cons cat.store i _ _).trans (if_neg hne)
  | audit m x =>
      rw [store_audit]
      cases cat.marked? (.audit m x) with
      | none => rfl
      | some e => exact attachedTo_cons cat.store i _ _
  | register x =>
      rw [store_register]
      cases cat.contract? x <;> rfl
  | clear => rfl
  | changeCopy change => rfl

/-! ## Sound catalogues -/

/-- The number of a class is its identity, the registry holds classes of the catalogue by
their names, and nothing is attached to classes yet to come. -/
structure Sound (cat : Catalogue) : Prop where
  numbered : ∀ (k : Nat) (r : ClassRecord), cat.classes[k]? = some r → r.contract.id = k
  length : cat.classes.length = cat.store.nextId
  distinct : Roll.Distinct cat.store.registry
  registered : ∀ e ∈ cat.store.registry, e.2.Named e.1 ∧ cat.Knows e.2
  clean : ∀ i, cat.store.nextId ≤ i → cat.store.attachedTo i = .foreign .null

/-- In a sound catalogue the number of a class is its identity. -/
theorem Sound.getElem?_iff (h : cat.Sound) {k : Nat} {r : ClassRecord} :
    cat.classes[k]? = some r ↔ r ∈ cat.classes ∧ r.contract.id = k := by
  constructor
  · intro hr
    exact ⟨List.mem_of_getElem? hr, h.numbered k r hr⟩
  · rintro ⟨hr, hk⟩
    obtain ⟨j, hj⟩ := List.mem_iff_getElem?.mp hr
    rwa [← hk, h.numbered j r hj]

/-- Classes that are there have identities below the next one. -/
theorem Sound.id_lt (h : cat.Sound) {c : Contract} (hc : cat.Knows c) :
    c.id < cat.store.nextId := by
  obtain ⟨r, hr, rfl⟩ := hc
  have hplace := h.getElem?_iff.mpr ⟨hr, rfl⟩
  rw [← h.length]
  exact (List.getElem?_eq_some_iff.mp hplace).1

/-- References stand for the classes that are there, by their numbers. -/
theorem Sound.contract?_eq_some_iff (h : cat.Sound) {x : Reference} {c : Contract} :
    cat.contract? x = some c ↔ cat.Knows c ∧ x = .numbered c.id := by
  cases x with
  | numbered k =>
      simp only [contract?, Option.map_eq_some_iff, Reference.numbered.injEq, h.getElem?_iff]
      constructor
      · rintro ⟨r, ⟨hr, hk⟩, rfl⟩
        exact ⟨⟨r, hr, rfl⟩, hk.symm⟩
      · rintro ⟨⟨r, hr, rfl⟩, hk⟩
        exact ⟨r, ⟨hr, hk.symm⟩, rfl⟩
  | plainClass name => simp [contract?]
  | value v => simp [contract?]

/-- An entry is refused exactly for the reasons that the classes registered so far give. -/
theorem Sound.enter_eq_error_iff (h : cat.Sound) {c : Contract} {f : Fault} :
    Roll.enter cat.store.registry c = .error f ↔ Refused cat.registered c f :=
  h.distinct.enter_eq_error_iff fun e he => (h.registered e he).1

/-- Classes are told apart by their identities. -/
theorem Sound.knows_inj (h : cat.Sound) {c c' : Contract} (hc : cat.Knows c) (hc' : cat.Knows c')
    (hid : c.id = c'.id) : c = c' := by
  obtain ⟨r, hr, rfl⟩ := hc
  obtain ⟨r', hr', rfl⟩ := hc'
  have hfirst := h.getElem?_iff.mpr ⟨hr, hid⟩
  have hsecond := h.getElem?_iff.mpr ⟨hr', rfl⟩
  rw [Option.some.inj (hfirst.symm.trans hsecond)]

/-- What the registry holds under a name is a class with that name. -/
theorem Sound.knows_of_get? (h : cat.Sound) {name : String} {c : Contract}
    (hc : cat.store.get? name = some c) : c.Named name ∧ cat.Knows c :=
  h.registered _ (h.distinct.lookup_eq_some_iff.mp hc)

theorem id_defined? {d : Deed} {r : ClassRecord} (h : cat.defined? d = some r) :
    r.contract.id = cat.store.nextId := by
  obtain ⟨name, base, above, -, -, hc, -⟩ := defined?_eq_some h
  exact id_ofSpec hc

/-- A deed tries to register only classes that are there. -/
theorem Sound.knows_of_tried? (h : cat.Sound) {d : Deed} {c : Contract}
    (hc : cat.tried? d = some c) : cat.Knows c := by
  cases d with
  | audit m x =>
      rw [tried?, Option.bind_eq_some_iff] at hc
      obtain ⟨config, -, hx⟩ := hc
      exact (h.contract?_eq_some_iff.mp hx).1
  | register x => exact (h.contract?_eq_some_iff.mp hc).1
  | define name base body clause => cases hc
  | clear => cases hc
  | changeCopy change => cases hc

/-- A deed attaches a configuration only to classes that are there. -/
theorem Sound.knows_of_marked? (h : cat.Sound) {d : Deed} {c : Contract} {config : Config}
    (hc : cat.marked? d = some (c, config)) : cat.Knows c := by
  cases d with
  | audit m x => exact (h.contract?_eq_some_iff.mp (marked?_audit_eq_some_iff.mp hc).1).1
  | register x => cases hc
  | define name base body clause => cases hc
  | clear => cases hc
  | changeCopy change => cases hc

theorem Sound.apply (h : cat.Sound) (d : Deed) : (cat.apply d).Sound where
  numbered := by
    intro k r hr
    have hclasses : (cat.apply d).classes = cat.classes ++ (cat.defined? d).toList := rfl
    rw [hclasses, List.getElem?_append] at hr
    split at hr
    · exact h.numbered k r hr
    next hk =>
      cases hd : cat.defined? d with
      | none =>
          rw [hd] at hr
          cases hr
      | some r' =>
          rw [hd, Option.toList_some, List.getElem?_singleton] at hr
          split at hr
          next hzero =>
            cases hr
            rw [id_defined? hd, ← h.length]
            omega
          · cases hr
  length := by
    rw [nextId_apply, ← h.length]
    exact List.length_append
  distinct := by
    cases d with
    | clear => exact List.nodup_nil
    | define | audit | register | changeCopy =>
        rw [registry_apply (by simp)]
        split
        · exact h.distinct.entered
        · exact h.distinct
  registered := by
    intro e he
    have hkept : ∀ c, cat.Knows c → (cat.apply d).Knows c := fun c ⟨r, hr, hc⟩ =>
      ⟨r, List.mem_append_left _ hr, hc⟩
    rcases mem_registry_apply he with hmem | ⟨htried, hnamed⟩
    · exact ⟨(h.registered e hmem).1, hkept e.2 (h.registered e hmem).2⟩
    · exact ⟨hnamed, hkept e.2 (h.knows_of_tried? htried)⟩
  clean := by
    intro i hi
    rw [nextId_apply] at hi
    have hfree : cat.store.nextId ≤ i := Nat.le_trans (Nat.le_add_right _ _) hi
    have hne : ∀ r, cat.defined? d = some r → i ≠ r.contract.id := by
      intro r hr
      rw [hr] at hi
      rw [id_defined? hr]
      exact Nat.ne_of_gt hi
    rw [attachedTo_apply d hne]
    split
    next c config hc =>
      have hlt : c.id < i := Nat.lt_of_lt_of_le (h.id_lt (h.knows_of_marked? hc)) hfree
      rw [if_neg (Nat.ne_of_gt hlt)]
      exact h.clean i hfree
    · exact h.clean i hfree

end Catalogue

/-- Every history leaves a sound catalogue. -/
theorem History.sound (h : History) : h.catalogue.Sound := by
  induction h with
  | start =>
      refine ⟨fun k r hr => ?_, rfl, List.nodup_nil, fun e he => absurd he List.not_mem_nil,
        fun _ _ => rfl⟩
      have hclasses : History.start.catalogue.classes = [ClassRecord.entity] := rfl
      rw [hclasses, List.getElem?_singleton] at hr
      split at hr
      next hk =>
        cases hr
        exact hk.symm
      · cases hr
  | next earlier d ih => exact ih.apply d

end AuditAspects
