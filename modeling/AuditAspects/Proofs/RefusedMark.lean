import AuditAspects.Proofs.ClassHistory

/-!
# Markers that are refused

Putting a marker on something fails if the marker cannot be read, if it is put on what is no
entity, or if the class cannot be registered (`AuditFault`).  However it fails, the registry
stays as it is.

The classes do not all stay as they are.  The configuration is attached to the class before
the class is registered, so a class whose registration is refused keeps the configuration of
the marker (`AuditOutcome`), and what was attached to it before is lost (`LosesMark`).
-/

namespace AuditAspects

namespace Catalogue

/-- Why a marker is not put on what a reference stands for. -/
inductive AuditFault (cat : Catalogue) (m : Marker) (x : Reference) : Fault → Prop
  /-- The reference stands for nothing. -/
  | unbound {f : Fault} (hx : cat.subject x = .error f) : AuditFault cat m x f
  /-- The marker cannot be read. -/
  | unreadable {subject : Subject} {f : Fault} (hx : cat.subject x = .ok subject)
      (hm : Store.readMarker m = .error f) : AuditFault cat m x f
  /-- It is no entity. -/
  | noEntity {subject : Subject} {config : Config} (hx : cat.subject x = .ok subject)
      (hm : Store.readMarker m = .ok config) (hc : ∀ c, subject ≠ .contract c) :
      AuditFault cat m x (.notAuditable subject.quoted)
  /-- It cannot be registered. -/
  | refused {c : Contract} {config : Config} {f : Fault} (hx : cat.contract? x = some c)
      (hm : Store.readMarker m = .ok config) (hc : Refused cat.registered c f) :
      AuditFault cat m x f

/-- The registration of a class is refused, with a marker that would change what is attached
to it. -/
def LosesMark (cat : Catalogue) (m : Marker) (x : Reference) : Prop :=
  ∃ c config f, cat.contract? x = some c ∧ Store.readMarker m = .ok config ∧
    Refused cat.registered c f ∧ cat.store.attached c ≠ .proper config

variable (cat : Catalogue) (m : Marker) (x : Reference)

/-- The catalogue after a marker has been put on something. -/
def audited : Catalogue := cat.apply (.audit m x)

/-- What putting a marker on something comes to. -/
structure AuditOutcome : Prop where
  /-- It fails for one of the four reasons. -/
  fails_iff : ∀ f, cat.ending (.audit m x) = .error f ↔ AuditFault cat m x f
  /-- Failing, it leaves the registry as it is. -/
  registry : ∀ f, cat.ending (.audit m x) = .error f →
    (cat.audited m x).store.registry = cat.store.registry
  /-- What is attached to other classes stays in any case. -/
  others : ∀ d : Contract, x ≠ .numbered d.id →
    (cat.audited m x).store.attached d = cat.store.attached d
  /-- A class that is refused has the configuration all the same. -/
  refused : ∀ c config f, cat.contract? x = some c → Store.readMarker m = .ok config →
    cat.ending (.audit m x) = .error f → (cat.audited m x).store.attached c = .proper config
  /-- Failing, it leaves all classes as they are exactly unless a class loses what was
  attached to it. -/
  unchanged_iff : ∀ f, cat.ending (.audit m x) = .error f →
    ((∀ r ∈ cat.classes,
        (cat.audited m x).store.attached r.contract = cat.store.attached r.contract) ↔
      ¬cat.LosesMark m x)
  /-- Going through, it attaches the configuration to the class and registers the class under
  the name of its type. -/
  returned : cat.ending (.audit m x) = .ok () →
    ∃ c config name, cat.contract? x = some c ∧ Store.readMarker m = .ok config ∧ c.Named name ∧
      (cat.audited m x).store.attached c = .proper config ∧
      (cat.audited m x).store.get? name = some c

variable {cat m x}

/-! ## The marker and the class -/

/-- A marker that can be read is put on a class, or it fails before the class is registered. -/
theorem class_or_fault (cat : Catalogue) (m : Marker) (x : Reference) :
    (∃ c config, cat.contract? x = some c ∧ Store.readMarker m = .ok config) ∨
      ∃ f, cat.ending (.audit m x) = .error f ∧ AuditFault cat m x f := by
  cases hx : cat.subject x with
  | error f => exact .inr ⟨f, by rw [ending_audit, hx], .unbound hx⟩
  | ok subject =>
      have hending : cat.ending (.audit m x) = (Store.audit m subject).result cat.store := by
        rw [ending_audit, hx]
      rw [hending, Store.result_audit]
      cases hm : Store.readMarker m with
      | error f => exact .inr ⟨f, rfl, .unreadable hx hm⟩
      | ok config =>
          cases subject with
          | contract c => exact .inl ⟨c, config, by rw [contract?_eq, hx], rfl⟩
          | plainClass name => exact .inr ⟨_, rfl, .noEntity hx hm fun c hc => by cases hc⟩
          | value v => exact .inr ⟨_, rfl, .noEntity hx hm fun c hc => by cases hc⟩

/-- Putting a marker on something fails in one of four ways. -/
theorem Sound.ending_audit_eq_error_iff (h : cat.Sound) {f : Fault} :
    cat.ending (.audit m x) = .error f ↔ AuditFault cat m x f := by
  constructor
  · intro hf
    obtain ⟨c, config, hx, hm⟩ | ⟨g, hg, hfault⟩ := class_or_fault cat m x
    · rw [ending_audit_of_class hx hm, Roll.enter_map_eq_error_iff] at hf
      exact .refused hx hm (h.enter_eq_error_iff.mp hf)
    · rw [hg] at hf
      cases hf
      exact hfault
  · intro hf
    cases hf with
    | unbound hx => rw [ending_audit, hx]
    | unreadable hx hm => simp only [ending_audit, hx, Store.result_audit, hm]
    | @noEntity subject config hx hm hc =>
        rw [ending_audit, hx]
        cases subject with
        | contract c => exact absurd rfl (hc c)
        | plainClass name => simp only [Store.result_audit, hm]
        | value v => simp only [Store.result_audit, hm]
    | refused hx hm hc =>
        rw [ending_audit_of_class hx hm, Roll.enter_map_eq_error_iff]
        exact h.enter_eq_error_iff.mpr hc

/-- A marker that can be read is attached to the class that it is put on. -/
theorem attached_audited {c : Contract} {config : Config} (hx : cat.contract? x = some c)
    (hm : Store.readMarker m = .ok config) (d : Contract) :
    (cat.audited m x).store.attached d =
      if d.id = c.id then .proper config else cat.store.attached d := by
  have hnone : ∀ r : ClassRecord, cat.defined? (.audit m x) = some r → d.id ≠ r.contract.id :=
    fun r hr => by cases hr
  have happly := attachedTo_apply (.audit m x) hnone
  rw [marked?_audit_eq_some_iff.mpr ⟨hx, hm⟩] at happly
  exact happly

theorem Sound.attached_others (h : cat.Sound) {d : Contract} (hne : x ≠ .numbered d.id) :
    (cat.audited m x).store.attached d = cat.store.attached d := by
  cases hc : cat.marked? (.audit m x) with
  | none => rw [audited, store_audit, hc]
  | some e =>
      obtain ⟨c, config⟩ := e
      obtain ⟨hx, hm⟩ := marked?_audit_eq_some_iff.mp hc
      obtain ⟨-, hid⟩ := h.contract?_eq_some_iff.mp hx
      have hother : d.id ≠ c.id := fun heq => hne (heq ▸ hid)
      rw [attached_audited hx hm, if_neg hother]

/-- A failing marker leaves the classes as they are, exactly unless it loses what was attached
to the class that it is put on. -/
theorem Sound.unchanged_iff (h : cat.Sound) {f : Fault} (hf : cat.ending (.audit m x) = .error f) :
    (∀ r ∈ cat.classes,
        (cat.audited m x).store.attached r.contract = cat.store.attached r.contract) ↔
      ¬cat.LosesMark m x := by
  constructor
  · rintro hkept ⟨c, config, -, hx, hm, -, hne⟩
    obtain ⟨⟨r, hr, rfl⟩, -⟩ := h.contract?_eq_some_iff.mp hx
    have hattached := attached_audited hx hm r.contract
    rw [hkept r hr, if_pos rfl] at hattached
    exact hne hattached
  · intro hkeeps r hr
    by_cases hne : x = .numbered r.contract.id
    · have hx : cat.contract? x = some r.contract := h.contract?_eq_some_iff.mpr ⟨⟨r, hr, rfl⟩, hne⟩
      cases hm : Store.readMarker m with
      | error g =>
          have hc : cat.marked? (.audit m x) = none := by rw [marked?, hm]; rfl
          rw [audited, store_audit, hc]
      | ok config =>
          rw [ending_audit_of_class hx hm, Roll.enter_map_eq_error_iff] at hf
          rw [attached_audited hx hm, if_pos rfl]
          by_contra hlost
          exact hkeeps ⟨_, config, f, hx, hm, h.enter_eq_error_iff.mp hf, Ne.symm hlost⟩
    · exact h.attached_others hne

/-- A marker that goes through is attached to the class, which then has its name in the
registry. -/
theorem Sound.held_of_audit (h : cat.Sound) (hok : cat.ending (.audit m x) = .ok ()) :
    ∃ c config name, cat.contract? x = some c ∧ Store.readMarker m = .ok config ∧ c.Named name ∧
      (cat.audited m x).store.attached c = .proper config ∧
      (cat.audited m x).store.get? name = some c := by
  obtain ⟨c, config, hx, hm⟩ | ⟨f, hf, -⟩ := class_or_fault cat m x
  · rw [ending_audit_of_class hx hm, Roll.enter_map_eq_ok_iff] at hok
    obtain ⟨r', hr'⟩ := hok
    obtain ⟨t, ht, hcases⟩ := Roll.enter_eq_ok hr'
    refine ⟨c, config, t.name, hx, hm, ⟨t, ht, rfl⟩, ?_, ?_⟩
    · rw [attached_audited hx hm, if_pos rfl]
    · have hregistry : (cat.audited m x).store.registry = Roll.entered cat.store.registry c := by
        rw [audited, store_audit, marked?_audit_eq_some_iff.mpr ⟨hx, hm⟩]
      have hname : c.typeName? = some t.name := Contract.typeName?_eq_some_iff.mpr ⟨t, ht, rfl⟩
      rw [Store.get?, hregistry, Roll.lookup_entered, if_pos hname]
      rcases hcases with ⟨hfree, -⟩ | ⟨holder, hholder, hid, -⟩
      · rw [hfree, Option.none_or]
      · have hknows : cat.Knows c := (h.contract?_eq_some_iff.mp hx).1
        rw [hholder, Option.some_or, h.knows_inj (h.knows_of_get? hholder).2 hknows hid]
  · rw [hf] at hok
    cases hok

end Catalogue

/-- What putting a marker on something comes to, whatever has been done before. -/
theorem auditOutcome (h : History) (m : Marker) (x : Reference) :
    Catalogue.AuditOutcome h.catalogue m x where
  fails_iff _ := h.sound.ending_audit_eq_error_iff
  registry _ := Catalogue.registry_apply_of_error
  others _ := h.sound.attached_others
  refused c config _ hx hm _ := by
    rw [Catalogue.attached_audited hx hm, if_pos rfl]
  unchanged_iff _ := h.sound.unchanged_iff
  returned := h.sound.held_of_audit

/-- Two classes of one name, of which the first one is marked. -/
def twoInvoices : History :=
  ((History.start.next (.define "Invoice" 0 [] .absent)).next (.audit [] (.numbered 1))).next
    (.define "Invoice" 0 [] .absent)

/-- The second class is refused, and yet the marker is attached to it. -/
theorem audit_secondInvoice :
    ∃ c, twoInvoices.catalogue.contract? (.numbered 2) = some c ∧
      twoInvoices.catalogue.ending (.audit [("created_by_column", .text "author")] (.numbered 2)) =
        .error (.entityRegistered "com.example.domain.Invoice") ∧
      (Fault.entityRegistered "com.example.domain.Invoice").kind = .value ∧
      twoInvoices.catalogue.store.attached c = .foreign .null ∧
      (twoInvoices.catalogue.audited [("created_by_column", .text "author")]
        (.numbered 2)).store.attached c = .proper { createdByColumn := some "author" } :=
  ⟨_, rfl, by decide +kernel, rfl, rfl, rfl⟩

end AuditAspects
