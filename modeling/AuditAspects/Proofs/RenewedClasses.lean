import AuditAspects.Proofs.ScanSurvey

/-!
# Classes under other identities

A module that runs again defines its classes anew, and they get other identities.  A
`Renewal` pairs the identities in one run with those in another: the classes known to both
keep theirs, and those that are defined on the way get the next free ones on either side.

Steps on stores that a renewal `Pairs` end alike, give paired classes and leave paired
stores.  This holds of each step of a module (`related_runItem`) and hence of a whole
scan (`related_scanModules`).
-/

namespace AuditAspects

/-! ## Identities -/

/-- Identities of known classes, and the first free identity in either run. -/
structure Renewal where
  /-- The identities of the classes that both runs know. -/
  known : List Nat
  /-- The first free identity in the one run. -/
  free : Nat
  /-- The first free identity in the other. -/
  newFree : Nat
  known_lt : ∀ i ∈ known, i < free
  known_lt_new : ∀ i ∈ known, i < newFree

namespace Renewal

variable (ρ : Renewal)

/-- The identity in the other run. -/
def renew (i : Nat) : Nat :=
  if i < ρ.free then i else i - ρ.free + ρ.newFree

/-- An identity of a class that the run can meet. -/
def InPlay (i : Nat) : Prop := i ∈ ρ.known ∨ ρ.free ≤ i

variable {ρ} {i j : Nat}

/-- Known identities stay. -/
theorem renew_known (h : i ∈ ρ.known) : ρ.renew i = i :=
  if_pos (ρ.known_lt i h)

/-- The identities yet to come are shifted. -/
theorem renew_free (h : ρ.free ≤ i) : ρ.renew i = i - ρ.free + ρ.newFree :=
  if_neg (Nat.not_lt.mpr h)

/-- Among identities in play, renewing keeps apart what is apart. -/
theorem renew_inj (hi : ρ.InPlay i) (hj : ρ.InPlay j) : ρ.renew i = ρ.renew j ↔ i = j := by
  refine ⟨fun h => ?_, fun h => by rw [h]⟩
  -- Known identities lie below both bounds and renewed ones above the other, so they never meet.
  rcases hi with hi | hi <;> rcases hj with hj | hj
  · rwa [renew_known hi, renew_known hj] at h
  · have := ρ.known_lt_new i hi
    rw [renew_known hi, renew_free hj] at h
    omega
  · have := ρ.known_lt_new j hj
    rw [renew_free hi, renew_known hj] at h
    omega
  · rw [renew_free hi, renew_free hj] at h
    omega

end Renewal

/-! ## Classes -/

/-- A class under its identity in the other run. -/
def Contract.renew (ρ : Renewal) (c : Contract) : Contract := { c with id := ρ.renew c.id }

/-- Classes by names, under their identities in the other run. -/
def renewAll (ρ : Renewal) (es : List (String × Contract)) : List (String × Contract) :=
  es.map fun e => (e.1, e.2.renew ρ)

/-- All classes are ones that the run can meet. -/
def AllInPlay (ρ : Renewal) (es : List (String × Contract)) : Prop :=
  ∀ e ∈ es, ρ.InPlay e.2.id

section Classes

variable {ρ : Renewal}

@[simp] theorem type_renew (c : Contract) : (c.renew ρ).type = c.type := rfl

theorem renew_of_known {c : Contract} (h : c.id ∈ ρ.known) : c.renew ρ = c := by
  rw [Contract.renew, Renewal.renew_known h]

theorem lookup_renewAll (name : String) (es : List (String × Contract)) :
    (renewAll ρ es).lookup name = (es.lookup name).map (Contract.renew ρ) := by
  induction es with
  | nil => rfl
  | cons e es ih =>
      rw [renewAll, List.map_cons, List.lookup_cons, List.lookup_cons]
      cases name == e.1 with
      | true => rfl
      | false => exact ih

theorem put_renewAll (name : String) (c : Contract) (es : List (String × Contract)) :
    Entries.put name (c.renew ρ) (renewAll ρ es) = renewAll ρ (Entries.put name c es) := by
  induction es with
  | nil => rfl
  | cons e es ih =>
      by_cases h : e.1 = name
      · simp [renewAll, Entries.put, h]
      · simp only [renewAll, List.map_cons, Entries.put, h, ↓reduceIte]
        exact congrArg _ ih

theorem insertBy_renewAll (e : String × Contract) (es : List (String × Contract)) :
    insertBy (fun a b => textLe a.1 b.1) (e.1, e.2.renew ρ) (renewAll ρ es) =
      renewAll ρ (insertBy (fun a b => textLe a.1 b.1) e es) := by
  induction es with
  | nil => rfl
  | cons d es ih =>
      simp only [renewAll, List.map_cons, insertBy]
      by_cases h : textLe e.1 d.1
      · simp only [h, ↓reduceIte, List.map_cons]
      · simp only [h, Bool.false_eq_true, ↓reduceIte, List.map_cons]
        exact congrArg _ ih

/-- Renewing keeps the order of the names. -/
theorem sortBy_renewAll (es : List (String × Contract)) :
    sortBy (fun a b => textLe a.1 b.1) (renewAll ρ es) =
      renewAll ρ (sortBy (fun a b => textLe a.1 b.1) es) := by
  induction es with
  | nil => rfl
  | cons e es ih =>
      rw [sortBy, ← insertBy_renewAll, ← ih]
      rfl

/-- What is looked up among contracts in play is in play. -/
theorem AllInPlay.lookup {es : List (String × Contract)} (h : AllInPlay ρ es) {name : String}
    {c : Contract} (hc : es.lookup name = some c) : ρ.InPlay c.id :=
  h (name, c) (Entries.mem_of_lookup hc)

theorem AllInPlay.put {es : List (String × Contract)} (h : AllInPlay ρ es) {c : Contract}
    (hc : ρ.InPlay c.id) (name : String) : AllInPlay ρ (Entries.put name c es) := by
  induction es with
  | nil =>
      intro e he
      rw [List.mem_singleton.mp he]
      exact hc
  | cons d es ih =>
      obtain ⟨hd, hes⟩ := List.forall_mem_cons.mp h
      rw [Entries.put]
      split
      · exact List.forall_mem_cons.mpr ⟨hc, hes⟩
      · exact List.forall_mem_cons.mpr ⟨hd, ih hes⟩

/-- A class that is defined again is the same but for its identity, if its base is. -/
theorem ofSpec_renew {i j : Nat} (hij : j = ρ.renew i) (spec : ContractSpec) :
    Contract.ofSpec j { spec with base := spec.base.renew ρ } =
      (Contract.ofSpec i spec).map (Contract.renew ρ) := by
  subst hij
  simp only [Contract.ofSpec]
  cases spec.clause.resolve spec.body with
  | error f => rfl
  | ok own =>
      simp only [bind, Except.bind]
      cases Contract.listMethods (((own.getD none).getD {}).declaredMethods.getD (.list [])) with
      | error f => rfl
      | ok methods =>
          simp only
          split <;> rfl

end Classes

/-! ## Stores -/

/-- What is attached under an identity. -/
def Store.attachedTo (s : Store) (i : Nat) : Offered Config :=
  (s.marks.lookup i).getD (.foreign .null)

/-- A store of the other run beside one of the one. -/
structure Renewal.Pairs (ρ : Renewal) (s t : Store) : Prop where
  registry : t.registry = renewAll ρ s.registry
  inPlay : AllInPlay ρ s.registry
  free : ρ.free ≤ s.nextId
  nextId : t.nextId = ρ.renew s.nextId
  attached : ∀ i, ρ.InPlay i → t.attachedTo (ρ.renew i) = s.attachedTo i

/-- A class of the other run beside one of the one. -/
def Renewal.Renews (ρ : Renewal) (c d : Contract) : Prop := d = c.renew ρ ∧ ρ.InPlay c.id

/-- A module of the other run beside one of the one. -/
structure Renewal.PairsScopes (ρ : Renewal) (m n : ModuleScope) : Prop where
  store : ρ.Pairs m.store n.store
  bindings : n.bindings = renewAll ρ m.bindings
  inPlay : AllInPlay ρ m.bindings

section Steps

open Step

variable {ρ : Renewal} {c : Contract} {s t : Store}

theorem attachedTo_cons (s : Store) (i j : Nat) (offered : Offered Config) :
    Store.attachedTo { s with marks := (j, offered) :: s.marks } i =
      if i = j then offered else s.attachedTo i := by
  rw [Store.attachedTo, List.lookup_cons]
  by_cases h : i = j
  · simp [h]
  · simp [h, beq_false_of_ne h, Store.attachedTo]

/-- Attaching the same to a contract and to its renewal keeps stores paired. -/
theorem Renewal.Pairs.attach (h : ρ.Pairs s t) (hc : ρ.InPlay c.id) (offered : Offered Config) :
    ρ.Pairs ((Store.attach c offered).after s) ((Store.attach (c.renew ρ) offered).after t) := by
  refine ⟨h.registry, h.inPlay, h.free, h.nextId, fun i hi => ?_⟩
  have hsame : ρ.renew i = ρ.renew c.id ↔ i = c.id := Renewal.renew_inj hi hc
  have hone := attachedTo_cons s i c.id offered
  have hother := attachedTo_cons t (ρ.renew i) (ρ.renew c.id) offered
  simp only [hsame, h.attached i hi] at hother
  exact hother.trans hone.symm

theorem related_attach (hc : ρ.InPlay c.id) (offered : Offered Config) :
    Related ρ.Pairs Eq (Store.attach c offered) (Store.attach (c.renew ρ) offered) :=
  fun _ _ hst => ⟨rfl, hst.attach hc offered⟩

/-- A contract is entered among renewed ones as it is among the old ones. -/
theorem enter_renew {r : Roll} (hr : AllInPlay ρ r) (hc : ρ.InPlay c.id) :
    Roll.enter (renewAll ρ r) (c.renew ρ) = (Roll.enter r c).map (renewAll ρ) := by
  rw [Roll.enter, Roll.enter, type_renew]
  cases c.type with
  | error f => rfl
  | ok type =>
      simp only [lookup_renewAll]
      cases hholder : r.lookup type.name with
      | none => simp [renewAll, Except.map]
      | some holder =>
          have hsame : ρ.renew holder.id = ρ.renew c.id ↔ holder.id = c.id :=
            Renewal.renew_inj (hr.lookup hholder) hc
          simp only [Option.map_some, Contract.renew, hsame]
          split <;> rfl

theorem AllInPlay.enter {r r' : Roll} (hr : AllInPlay ρ r) (hc : ρ.InPlay c.id)
    (h : Roll.enter r c = .ok r') : AllInPlay ρ r' := by
  obtain ⟨type, -, ⟨-, rfl⟩ | ⟨-, -, -, rfl⟩⟩ := Roll.enter_eq_ok h
  · intro e he
    rcases List.mem_append.mp he with he | he
    · exact hr e he
    · rw [List.mem_singleton.mp he]
      exact hc
  · exact hr

/-- Registering a contract and registering its renewal are related. -/
theorem related_register (hc : ρ.InPlay c.id) :
    Related ρ.Pairs Eq (Store.register c) (Store.register (c.renew ρ)) := by
  intro s t hst
  rw [Store.result_register, Store.result_register, Store.after_register, Store.after_register,
    hst.registry, enter_renew hst.inPlay hc]
  cases h : Roll.enter s.registry c with
  | error f => exact ⟨rfl, hst⟩
  | ok r =>
      exact ⟨rfl, rfl, hst.inPlay.enter hc h, hst.free, hst.nextId, hst.attached⟩

theorem related_mark (config : Config) (hc : ρ.InPlay c.id) :
    Related ρ.Pairs Eq (Store.mark config c) (Store.mark config (c.renew ρ)) :=
  (related_attach hc _).bind fun _ _ _ => related_register hc

/-- A contract has the identity that it is defined with. -/
theorem id_ofSpec {i : Nat} {spec : ContractSpec} (h : Contract.ofSpec i spec = .ok c) :
    c.id = i := by
  simp only [Contract.ofSpec] at h
  cases hown : spec.clause.resolve spec.body with
  | error f =>
      rw [hown] at h
      cases h
  | ok own =>
      simp only [hown, bind, Except.bind] at h
      cases hmethods : Contract.listMethods
          (((own.getD none).getD {}).declaredMethods.getD (.list [])) with
      | error f =>
          rw [hmethods] at h
          cases h
      | ok methods =>
          rw [hmethods] at h
          simp only at h
          split at h
          · cases h
          · cases h
            rfl

/-- Classes that are defined on both sides get the next free identity on either. -/
theorem related_define (spec : ContractSpec) :
    Related ρ.Pairs ρ.Renews (Store.define spec)
      (Store.define { spec with base := spec.base.renew ρ }) := by
  intro s t hst
  rw [Store.result_define, Store.result_define, Store.after_define, Store.after_define,
    ofSpec_renew hst.nextId]
  cases hc : Contract.ofSpec s.nextId spec with
  | error f => exact ⟨rfl, hst⟩
  | ok c =>
      have hid : c.id = s.nextId := id_ofSpec hc
      have hfree : ρ.InPlay c.id := .inr (hid ▸ hst.free)
      have hnext : t.nextId + 1 = ρ.renew (s.nextId + 1) := by
        rw [hst.nextId, Renewal.renew_free hst.free,
          Renewal.renew_free (Nat.le_succ_of_le hst.free)]
        have := hst.free
        omega
      refine ⟨⟨rfl, hfree⟩, hst.registry, hst.inPlay, Nat.le_succ_of_le hst.free, hnext, ?_⟩
      simp only [ContractSpec.bodyMark]
      cases spec.body.binding? markName with
      | none => exact hst.attached
      | some b => exact (hst.attach hfree (.foreign b.asValue)).attached

/-! ## Modules -/

section Modules

variable {α β γ δ : Type} {V : α → β → Prop} {m n : ModuleScope}

open ModuleScope

theorem related_onStore {x : Step Store α} {y : Step Store β} (h : Related ρ.Pairs V x y) :
    Related ρ.PairsScopes V (onStore x) (onStore y) := by
  intro m n hmn
  rw [result_onStore, result_onStore, after_onStore, after_onStore]
  obtain ⟨hend, hleft⟩ := h _ _ hmn.store
  exact ⟨hend, hleft, hmn.bindings, hmn.inPlay⟩

theorem related_bindName (name : String) (hc : ρ.InPlay c.id) :
    Related ρ.PairsScopes Eq (bindName name c) (bindName name (c.renew ρ)) := by
  intro m n hmn
  refine ⟨rfl, hmn.store, ?_, hmn.inPlay.put hc name⟩
  have hput : ((bindName name (c.renew ρ)).after n).bindings =
      Entries.put name (c.renew ρ) n.bindings := rfl
  rw [hput, hmn.bindings, put_renewAll]
  rfl

/-- A base by name is the renewal of the other run's. -/
theorem related_baseOf (hentity : Contract.entity.id ∈ ρ.known) (name : Option String) :
    Related ρ.PairsScopes (fun c d => d = c.renew ρ) (baseOf name) (baseOf name) := by
  intro m n hmn
  obtain ⟨hresult, hafter⟩ := baseOf_eq name m
  obtain ⟨hresult', hafter'⟩ := baseOf_eq name n
  rw [hresult, hresult', hafter, hafter']
  refine ⟨?_, hmn⟩
  have hbase : Contract.entity = Contract.entity.renew ρ := (renew_of_known hentity).symm
  cases name with
  | none => exact hbase
  | some name =>
      simp only [baseIn, hmn.bindings, lookup_renewAll]
      cases m.bindings.lookup name with
      | some c => exact rfl
      | none =>
          by_cases h : name = Contract.entity.name
          · simp only [h, Option.map_none, ↓reduceIte]
            exact hbase
          · simp only [h, Option.map_none, ↓reduceIte]
            exact rfl

/-- Defining a class is related to itself, however many classes came before. -/
theorem related_defineClass (hentity : Contract.entity.id ∈ ρ.known) (spec : ClassSpec) :
    Related ρ.PairsScopes Eq (defineClass spec) (defineClass spec) := by
  refine (related_ofExcept (matches_refl _)).bind fun config _ hconfig => ?_
  subst hconfig
  refine (related_baseOf hentity _).bind fun base _ hbase => ?_
  subst hbase
  refine (related_onStore (related_define _)).bind fun c _ ⟨hc, hinPlay⟩ => ?_
  subst hc
  have hbind : Related ρ.PairsScopes Eq _ _ := related_bindName spec.name hinPlay
  cases config with
  | none => exact hbind
  | some config =>
      exact (related_onStore (related_mark config hinPlay)).bind fun _ _ _ => hbind

variable {shared : List (String × Contract)}

theorem related_runItem (hentity : Contract.entity.id ∈ ρ.known)
    (hshared : ∀ e ∈ shared, e.2.id ∈ ρ.known) (item : ModuleItem) :
    Related ρ.PairsScopes Eq (runItem shared item) (runItem shared item) := by
  cases item with
  | define spec => exact related_defineClass hentity spec
  | fail kind text => exact related_throw _
  | bring name newName =>
      rw [runItem]
      cases hc : shared.lookup name with
      | none => exact related_throw _
      | some c =>
          have hknown : c.id ∈ ρ.known := hshared (name, c) (Entries.mem_of_lookup hc)
          have hbind : Related ρ.PairsScopes Eq _ _ :=
            related_bindName (newName.getD name) (.inl hknown)
          rwa [renew_of_known hknown] at hbind

theorem related_runItems (hentity : Contract.entity.id ∈ ρ.known)
    (hshared : ∀ e ∈ shared, e.2.id ∈ ρ.known) (items : List ModuleItem) :
    Related ρ.PairsScopes Eq (runItems shared items) (runItems shared items) := by
  induction items with
  | nil => exact related_pure rfl
  | cons item items ih => exact (related_runItem hentity hshared item).bind fun _ _ _ => ih

/-- Classes by names, and the same classes in the other run. -/
def Renewal.RenewsAll (ρ : Renewal) (es es' : List (String × Contract)) : Prop :=
  es' = renewAll ρ es ∧ AllInPlay ρ es

/-- A module leaves contracts bound and renewals of them. -/
theorem related_runModule (hentity : Contract.entity.id ∈ ρ.known)
    (hshared : ∀ e ∈ shared, e.2.id ∈ ρ.known) (file : String) (items : List ModuleItem) :
    Related ρ.Pairs ρ.RenewsAll (runModule shared file items) (runModule shared file items) := by
  intro s t hst
  obtain ⟨hend, hleft⟩ := related_runItems hentity hshared items ⟨s, []⟩ ⟨t, []⟩
    ⟨hst, rfl, fun e he => absurd he List.not_mem_nil⟩
  rw [result_runModule, result_runModule, after_runModule, after_runModule]
  refine ⟨?_, hleft.store⟩
  rcases matches_iff.mp hend with ⟨f, hm, hn⟩ | ⟨_, _, hm, hn, -⟩
  · rw [hm, hn]
    exact rfl
  · rw [hm, hn]
    refine ⟨?_, fun e he => hleft.inPlay e (mem_sortBy.mp he)⟩
    rw [hleft.bindings, sortBy_renewAll]

theorem collectable_renew (hentity : Contract.entity.id ∈ ρ.known) (hst : ρ.Pairs s t)
    (hc : ρ.InPlay c.id) :
    (decide ((c.renew ρ).id ≠ Contract.entity.id) && t.isMarked (c.renew ρ)) =
      (decide (c.id ≠ Contract.entity.id) && s.isMarked c) := by
  have hid : (c.renew ρ).id = Contract.entity.id ↔ c.id = Contract.entity.id := by
    have hsame := Renewal.renew_inj hc (.inl hentity)
    rwa [Renewal.renew_known hentity] at hsame
  have hmarked : t.isMarked (c.renew ρ) = s.isMarked c := by
    have hattached : t.attached (c.renew ρ) = s.attached c := hst.attached c.id hc
    rw [Store.isMarked, Store.isMarked, hattached]
  rw [hmarked]
  simp only [ne_eq, hid]

/-- Collecting bound contracts and collecting their renewals are related. -/
theorem related_collect (hentity : Contract.entity.id ∈ ρ.known)
    {bound : List (String × Contract)} (hbound : AllInPlay ρ bound) :
    Related ρ.Pairs Eq (collect bound) (collect (renewAll ρ bound)) := by
  induction bound with
  | nil => exact related_pure rfl
  | cons e bound ih =>
      obtain ⟨name, c⟩ := e
      obtain ⟨hc, hrest⟩ := List.forall_mem_cons.mp hbound
      intro s t hst
      have hcons : renewAll ρ ((name, c) :: bound) = (name, c.renew ρ) :: renewAll ρ bound := rfl
      rw [hcons, result_collect_cons, result_collect_cons, after_collect_cons, after_collect_cons,
        collectable_renew hentity hst hc]
      split
      · exact ((related_register hc).bind fun _ _ _ => ih hrest) s t hst
      · exact ih hrest s t hst

/-- A module is scanned the same way under other identities. -/
theorem related_scanModule (hentity : Contract.entity.id ∈ ρ.known)
    (hshared : ∀ e ∈ shared, e.2.id ∈ ρ.known) (file : String) (items : List ModuleItem) :
    Related ρ.Pairs Eq (scanModule shared file items) (scanModule shared file items) := by
  refine (related_runModule hentity hshared file items).bind fun bound _ ⟨hbound, hinPlay⟩ => ?_
  subst hbound
  exact related_collect hentity hinPlay

/-- So are all modules. -/
theorem related_scanModules (hentity : Contract.entity.id ∈ ρ.known)
    (hshared : ∀ e ∈ shared, e.2.id ∈ ρ.known) (files : List (String × List ModuleItem)) :
    Related ρ.Pairs Eq (scanModules shared files) (scanModules shared files) := by
  induction files with
  | nil => exact related_pure rfl
  | cons e files ih =>
      exact (related_scanModule hentity hshared e.1 e.2).bind fun _ _ _ => ih

end Modules

end Steps

end AuditAspects
