import AuditAspects.Proofs.RenewedClasses

/-!
# What scans leave in a store

A scan attaches configurations to classes that it defines, and to no others.  So a store
only grows (`Store.GrownFrom`), whether the scan goes through or fails
(`leads_scanModules`): to the classes that were there nothing is attached, and nothing is
attached to classes yet to come.

A store is `Sound` if the classes from outside of projects are there and nothing is attached
to classes yet to come.  The store in which these classes are defined is
(`sound_defineShared`), and a sound store stays sound as it grows (`GrownFrom.sound`).
-/

namespace AuditAspects

/-! ## Stores -/

/-- A store that has grown from another: to the classes that were there nothing has been
attached, and nothing is attached to classes yet to come. -/
structure Store.GrownFrom (s₀ s : Store) : Prop where
  free : s₀.nextId ≤ s.nextId
  kept : ∀ i, i < s₀.nextId → s.attachedTo i = s₀.attachedTo i
  clean : ∀ i, s.nextId ≤ i → s.attachedTo i = .foreign .null

/-- Nothing is attached to classes yet to come, and neither the base of all entities nor the
classes from outside of projects are among them. -/
structure Store.Sound (shared : List (String × Contract)) (s : Store) : Prop where
  entity_lt : Contract.entity.id < s.nextId
  shared_lt : ∀ e ∈ shared, e.2.id < s.nextId
  clean : ∀ i, s.nextId ≤ i → s.attachedTo i = .foreign .null

theorem Store.GrownFrom.sound {shared : List (String × Contract)} {s₀ s : Store}
    (h : s₀.GrownFrom s) (hs₀ : s₀.Sound shared) : s.Sound shared :=
  ⟨Nat.lt_of_lt_of_le hs₀.entity_lt h.free,
    fun e he => Nat.lt_of_lt_of_le (hs₀.shared_lt e he) h.free, h.clean⟩

/-- A class that came to a store since another. -/
structure Store.Newcomer (s₀ s : Store) (c : Contract) : Prop extends GrownFrom s₀ s where
  later : s₀.nextId ≤ c.id
  taken : c.id < s.nextId

namespace Store

open Step

variable {s₀ : Store}

/-- A newcomer stays one when something is attached to it. -/
theorem Newcomer.attach {s : Store} {c : Contract} (h : Newcomer s₀ s c)
    (offered : Offered Config) : Newcomer s₀ ((Store.attach c offered).after s) c := by
  have hmarks : ∀ i, ((Store.attach c offered).after s).attachedTo i =
      if i = c.id then offered else s.attachedTo i := fun i => attachedTo_cons s i c.id offered
  refine ⟨⟨h.free, fun i hi => ?_, fun i hi => ?_⟩, h.later, h.taken⟩
  · rw [hmarks, if_neg (Nat.ne_of_lt (Nat.lt_of_lt_of_le hi h.later))]
    exact h.kept i hi
  · rw [hmarks, if_neg (Nat.ne_of_gt (Nat.lt_of_lt_of_le h.taken hi))]
    exact h.clean i hi

theorem leads_define (spec : ContractSpec) :
    Leads (GrownFrom s₀) (define spec) (fun c s => Newcomer s₀ s c) (GrownFrom s₀) := by
  intro s hs
  rw [result_define, after_define]
  cases hc : Contract.ofSpec s.nextId spec with
  | error f => exact hs
  | ok c =>
      have hid : c.id = s.nextId := id_ofSpec hc
      have hnew : Newcomer s₀ { s with nextId := s.nextId + 1 } c := by
        refine ⟨⟨Nat.le_succ_of_le hs.free, hs.kept, fun i hi => ?_⟩, ?_, ?_⟩
        · exact hs.clean i (Nat.le_of_succ_le hi)
        · exact hid ▸ hs.free
        · exact hid ▸ Nat.lt_succ_self _
      simp only [ContractSpec.bodyMark]
      cases spec.body.binding? markName with
      | none => exact hnew
      | some b => exact hnew.attach (.foreign b.asValue)

theorem leads_register (c : Contract) :
    Leads (GrownFrom s₀) (register c) (fun _ => GrownFrom s₀) (GrownFrom s₀) := by
  intro s hs
  rw [result_register, after_register]
  cases Roll.enter s.registry c with
  | error f => exact hs
  | ok r => exact ⟨hs.free, hs.kept, hs.clean⟩

theorem leads_mark (config : Config) (c : Contract) :
    Leads (Newcomer s₀ · c) (mark config c) (fun _ => GrownFrom s₀) (GrownFrom s₀) :=
  Leads.bind (Q := fun _ => GrownFrom s₀) (fun _ hs => (hs.attach (.proper config)).toGrownFrom)
    fun _ => leads_register c

theorem nextId_mark (config : Config) (c : Contract) (s : Store) :
    ((mark config c).after s).nextId = s.nextId := by
  have hattach : (attach c (.proper config)).result s = .ok () := rfl
  rw [mark, Step.after_bind_of_ok _ hattach, after_register]
  cases Roll.enter ((attach c (.proper config)).after s).registry c <;> rfl

theorem le_nextId_define (spec : ContractSpec) (s : Store) :
    s.nextId ≤ ((define spec).after s).nextId := by
  rw [after_define]
  cases Contract.ofSpec s.nextId spec with
  | error f => exact Nat.le_refl _
  | ok c => exact Nat.le_succ _

end Store

/-! ## Modules -/

/-- A module whose store has grown from another, and that binds classes which are there. -/
structure ModuleScope.GrownFrom (s₀ : Store) (m : ModuleScope) : Prop where
  store : s₀.GrownFrom m.store
  bound : ∀ e ∈ m.bindings, e.2.id < m.store.nextId

namespace ModuleScope

open Step

variable {s₀ : Store} {shared : List (String × Contract)}

/-- Binding a class to a name leaves the store as it is. -/
theorem leads_bindName (name : String) (c : Contract) :
    Leads (fun m => GrownFrom s₀ m ∧ c.id < m.store.nextId) (bindName name c)
      (fun _ => GrownFrom s₀) (GrownFrom s₀) := by
  rintro m ⟨hm, hc⟩
  refine ⟨hm.store, fun e he => ?_⟩
  rcases Entries.mem_put he with rfl | he
  · exact hc
  · exact hm.bound e he

theorem leads_onStore_define (spec : ContractSpec) :
    Leads (GrownFrom s₀) (onStore (Store.define spec))
      (fun c m => GrownFrom s₀ m ∧ Store.Newcomer s₀ m.store c) (GrownFrom s₀) := by
  intro m hm
  have hdefine := Store.leads_define spec m.store hm.store
  have hbound : ∀ e ∈ m.bindings, e.2.id < ((Store.define spec).after m.store).nextId := fun e he =>
    Nat.lt_of_lt_of_le (hm.bound e he) (Store.le_nextId_define spec m.store)
  rw [result_onStore, after_onStore]
  cases h : (Store.define spec).result m.store with
  | error f =>
      rw [h] at hdefine
      exact ⟨hdefine, hbound⟩
  | ok c =>
      rw [h] at hdefine
      exact ⟨⟨hdefine.toGrownFrom, hbound⟩, hdefine⟩

theorem leads_onStore_mark (config : Config) (c : Contract) :
    Leads (fun m => GrownFrom s₀ m ∧ Store.Newcomer s₀ m.store c) (onStore (Store.mark config c))
      (fun _ m => GrownFrom s₀ m ∧ c.id < m.store.nextId) (GrownFrom s₀) := by
  rintro m ⟨hm, hc⟩
  have hmark := Store.leads_mark config c m.store hc
  have hnextId := Store.nextId_mark config c m.store
  have hbound : ∀ e ∈ m.bindings, e.2.id < ((Store.mark config c).after m.store).nextId :=
    fun e he => hnextId ▸ hm.bound e he
  rw [result_onStore, after_onStore]
  cases h : (Store.mark config c).result m.store with
  | error f =>
      rw [h] at hmark
      exact ⟨hmark, hbound⟩
  | ok _ =>
      rw [h] at hmark
      exact ⟨⟨hmark, hbound⟩, hnextId ▸ hc.taken⟩

/-- Defining, marking and binding a class grows the store. -/
theorem leads_defineClass (spec : ClassSpec) :
    Leads (GrownFrom s₀) (defineClass spec) (fun _ => GrownFrom s₀) (GrownFrom s₀) := by
  refine (leads_ofExcept _ fun _ hm => hm).bind fun config => ?_
  refine Leads.bind (Q := fun _ => GrownFrom s₀) ?_ fun base => ?_
  · intro m hm
    rw [(baseOf_eq spec.base m).1, (baseOf_eq spec.base m).2]
    cases baseIn m.bindings spec.base <;> exact hm
  refine (leads_onStore_define _).bind fun c => ?_
  cases config with
  | none => exact fun m hm => leads_bindName spec.name c m ⟨hm.1, hm.2.taken⟩
  | some config => exact (leads_onStore_mark config c).bind fun _ => leads_bindName spec.name c

theorem leads_runItems (hshared : ∀ e ∈ shared, e.2.id < s₀.nextId) (items : List ModuleItem) :
    Leads (GrownFrom s₀) (runItems shared items) (fun _ => GrownFrom s₀) (GrownFrom s₀) := by
  induction items with
  | nil => exact leads_pure fun _ hm => hm
  | cons item items ih =>
      refine Leads.bind ?_ fun _ => ih
      cases item with
      | define spec => exact leads_defineClass spec
      | fail kind text => exact leads_throw fun _ hm => hm
      | bring name newName =>
          rw [runItem]
          cases hc : shared.lookup name with
          | none => exact leads_throw fun _ hm => hm
          | some c =>
              have hmem : (name, c) ∈ shared := Entries.mem_of_lookup hc
              exact fun m hm => leads_bindName _ c m
                ⟨hm, Nat.lt_of_lt_of_le (hshared _ hmem) hm.store.free⟩

end ModuleScope

/-! ## Scans -/

namespace Store

open Step

variable {s₀ : Store} {shared : List (String × Contract)}

theorem leads_collect (bound : List (String × Contract)) :
    Leads (GrownFrom s₀) (collect bound) (fun _ => GrownFrom s₀) (GrownFrom s₀) := by
  induction bound with
  | nil => exact leads_pure fun _ hs => hs
  | cons e bound ih =>
      obtain ⟨name, c⟩ := e
      intro s hs
      rw [result_collect_cons, after_collect_cons]
      by_cases hc : (decide (c.id ≠ Contract.entity.id) && s.isMarked c) = true
      · rw [if_pos hc, if_pos hc]
        exact ((leads_register c).bind fun _ => ih) s hs
      · rw [if_neg hc, if_neg hc]
        exact ih s hs

/-- The scan of a module lets the store grow, also if it fails. -/
theorem leads_scanModule (hshared : ∀ e ∈ shared, e.2.id < s₀.nextId) (file : String)
    (items : List ModuleItem) :
    Leads (GrownFrom s₀) (scanModule shared file items) (fun _ => GrownFrom s₀) (GrownFrom s₀) := by
  refine Leads.bind (Q := fun _ => GrownFrom s₀) ?_ leads_collect
  intro s hs
  have hrun := (ModuleScope.leads_runItems hshared items).after (s := ⟨s, []⟩)
    ⟨hs, fun e he => absurd he List.not_mem_nil⟩
  rw [result_runModule, after_runModule]
  cases (ModuleScope.runItems shared items).result ⟨s, []⟩ with
  | ok _ => exact hrun.store
  | error f => exact hrun.store

/-- So does the scan of all modules. -/
theorem leads_scanModules (hshared : ∀ e ∈ shared, e.2.id < s₀.nextId)
    (files : List (String × List ModuleItem)) :
    Leads (GrownFrom s₀) (scanModules shared files) (fun _ => GrownFrom s₀) (GrownFrom s₀) := by
  induction files with
  | nil => exact leads_pure fun _ hs => hs
  | cons e files ih => exact (leads_scanModule hshared e.1 e.2).bind fun _ => ih

/-- The classes from outside of projects are sound to start from. -/
theorem sound_defineShared {specs : List ClassSpec}
    (h : (defineShared specs).result {} = .ok shared) :
    ((defineShared specs).after {}).Sound shared := by
  have hnone : ∀ e ∈ ([] : List (String × Contract)), e.2.id < ({} : Store).nextId :=
    fun e he => absurd he List.not_mem_nil
  have hrun := (ModuleScope.leads_runItems hnone (specs.map .define)).after (s := ⟨{}, []⟩)
    ⟨⟨Nat.le_refl _, fun _ _ => rfl, fun _ _ => rfl⟩, hnone⟩
  simp only [Step.result, Step.after, defineShared, EStateM.run] at h hrun ⊢
  cases hm : ModuleScope.runItems [] (specs.map .define) ⟨{}, []⟩ with
  | error f m =>
      rw [hm] at h
      cases h
  | ok _ m =>
      rw [hm] at h hrun
      cases h
      exact ⟨hrun.store.free, hrun.bound, hrun.store.clean⟩

end Store

end AuditAspects
