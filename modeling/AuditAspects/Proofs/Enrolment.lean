import AuditAspects.Entries
import AuditAspects.Registry
import AuditAspects.Proofs.StepLaws
import Mathlib.Data.List.Nodup

/-!
# Entering contracts in a roll

The registry is a roll of contracts by the names of their types.  `Roll.enter` says what
one registration does to it, apart from everything else that a store holds
(`result_register`, `after_register`), and `Roll.enterAll` what a row of registrations
does.

A roll `Records` a row of contracts if it holds the first of each name, and every
contract of the row is the holder of its name.  Entering keeps this up
(`Records.enterAll`), and it goes through exactly if all contracts have names and no two
different ones share a name (`Records.exists_enterAll_iff`).
-/

namespace AuditAspects

/-- Contracts by the names of their types, in the order of registration. -/
abbrev Roll := List (String × Contract)

namespace Contract

/-- The type of a contract has a given name. -/
def Named (c : Contract) (name : String) : Prop := ∃ t, c.type = .ok t ∧ t.name = name

theorem named_iff {c : Contract} {t : TypeName} (h : c.type = .ok t) {name : String} :
    c.Named name ↔ name = t.name := by
  constructor
  · rintro ⟨u, hu, rfl⟩
    rw [h] at hu
    cases hu
    rfl
  · rintro rfl
    exact ⟨t, h, rfl⟩

theorem not_named {c : Contract} {f : Fault} (h : c.type = .error f) (name : String) :
    ¬c.Named name := by
  rintro ⟨u, hu, -⟩
  rw [h] at hu
  cases hu

end Contract

/-- No two different contracts share the name of a type. -/
def NamesApart (cs : List Contract) : Prop :=
  ∀ c ∈ cs, ∀ d ∈ cs, ∀ name, c.Named name → d.Named name → c.id = d.id

/-- Every contract has a type with a name. -/
def AllNamed (cs : List Contract) : Prop := ∀ c ∈ cs, ∃ name, c.Named name

/-- A different contract among others has the name of a contract. -/
def Clashes (earlier : List Contract) (c : Contract) (name : String) : Prop :=
  c.Named name ∧ ∃ d ∈ earlier, d.Named name ∧ d.id ≠ c.id

/-- Why a contract is not entered after others. -/
inductive Refused (earlier : List Contract) (c : Contract) : Fault → Prop
  /-- Its type is not known. -/
  | unnamed {f : Fault} (h : c.type = .error f) : Refused earlier c f
  /-- Another one has its name. -/
  | clash {name : String} (h : Clashes earlier c name) : Refused earlier c (.entityRegistered name)

/-! ## Entering -/

namespace Roll

/-- The roll after a registration, or why it is refused. -/
def enter (r : Roll) (c : Contract) : Except Fault Roll :=
  match c.type with
  | .error f => .error f
  | .ok t =>
      match r.lookup t.name with
      | some holder => if holder.id = c.id then .ok r else .error (.entityRegistered t.name)
      | none => .ok (r ++ [(t.name, c)])

/-- The roll after several registrations, or why one of them is refused. -/
def enterAll (r : Roll) : List Contract → Except Fault Roll
  | [] => .ok r
  | c :: cs =>
      match r.enter c with
      | .ok r => enterAll r cs
      | .error f => .error f

theorem enterAll_append (r : Roll) (cs ds : List Contract) :
    r.enterAll (cs ++ ds) =
      match r.enterAll cs with
      | .ok r => r.enterAll ds
      | .error f => .error f := by
  induction cs generalizing r with
  | nil => rfl
  | cons c cs ih =>
      rw [List.cons_append, enterAll, enterAll]
      cases r.enter c with
      | ok r' => exact ih r'
      | error f => rfl

/-- A contract whose type has a name is refused only because of another holder. -/
theorem enter_eq_error {r : Roll} {c : Contract} {f : Fault} (h : r.enter c = .error f) :
    c.type = .error f ∨
      ∃ t holder, c.type = .ok t ∧ r.lookup t.name = some holder ∧ holder.id ≠ c.id ∧
        f = .entityRegistered t.name := by
  rw [enter] at h
  cases hc : c.type with
  | error g =>
      rw [hc] at h
      cases h
      exact .inl rfl
  | ok t =>
      simp only [hc] at h
      cases hl : r.lookup t.name with
      | none =>
          rw [hl] at h
          cases h
      | some holder =>
          simp only [hl] at h
          split at h
          · cases h
          next hne =>
            cases h
            exact .inr ⟨t, holder, rfl, hl, hne, rfl⟩

/-- A contract that is entered is new on the roll, or stands there already. -/
theorem enter_eq_ok {r r' : Roll} {c : Contract} (h : r.enter c = .ok r') :
    ∃ t, c.type = .ok t ∧
      ((r.lookup t.name = none ∧ r' = r ++ [(t.name, c)]) ∨
        ∃ holder, r.lookup t.name = some holder ∧ holder.id = c.id ∧ r' = r) := by
  rw [enter] at h
  cases hc : c.type with
  | error g =>
      rw [hc] at h
      cases h
  | ok t =>
      refine ⟨t, rfl, ?_⟩
      simp only [hc] at h
      cases hl : r.lookup t.name with
      | none =>
          rw [hl] at h
          cases h
          exact .inl ⟨rfl, rfl⟩
      | some holder =>
          simp only [hl] at h
          split at h
          next heq =>
            cases h
            exact .inr ⟨holder, rfl, heq, rfl⟩
          · cases h

/-- A row of contracts fails at the first that cannot be entered. -/
theorem enterAll_eq_error {r : Roll} {cs : List Contract} {f : Fault}
    (h : r.enterAll cs = .error f) :
    ∃ before c after r', cs = before ++ c :: after ∧ r.enterAll before = .ok r' ∧
      r'.enter c = .error f := by
  induction cs generalizing r with
  | nil => cases h
  | cons c cs ih =>
      rw [enterAll] at h
      cases hc : r.enter c with
      | error g =>
          rw [hc] at h
          cases h
          exact ⟨[], c, cs, r, rfl, rfl, hc⟩
      | ok r' =>
          rw [hc] at h
          obtain ⟨before, d, after, r'', rfl, hbefore, hd⟩ := ih h
          refine ⟨c :: before, d, after, r'', rfl, ?_, hd⟩
          rw [enterAll, hc]
          exact hbefore

/-! ## What a roll records -/

/-- No name stands twice in a roll. -/
def Distinct (r : Roll) : Prop := (r.map Prod.fst).Nodup

theorem lookup_eq_none_iff {r : Roll} {name : String} :
    r.lookup name = none ↔ name ∉ r.map Prod.fst :=
  Entries.lookup_eq_none_iff

/-- On a roll with distinct names, look-up finds what is there. -/
theorem Distinct.lookup_eq_some_iff {r : Roll} (h : r.Distinct) {name : String} {c : Contract} :
    r.lookup name = some c ↔ (name, c) ∈ r :=
  Entries.lookup_eq_some_iff h

theorem Distinct.enter {r r' : Roll} (h : r.Distinct) {c : Contract} (hc : r.enter c = .ok r') :
    r'.Distinct := by
  obtain ⟨t, -, ⟨hfree, rfl⟩ | ⟨holder, -, -, rfl⟩⟩ := enter_eq_ok hc
  · rw [Distinct, List.map_append, List.map_singleton, List.nodup_append]
    refine ⟨h, List.nodup_singleton _, fun name hname other hother => ?_⟩
    rw [List.mem_singleton.mp hother]
    rintro rfl
    exact lookup_eq_none_iff.mp hfree hname
  · exact h

/-- A roll holds the first of some contracts of each name. -/
structure Records (r : Roll) (cs : List Contract) : Prop where
  distinct : r.Distinct
  named : ∀ e ∈ r, e.2 ∈ cs ∧ e.2.Named e.1
  held : ∀ c ∈ cs, ∃ name holder, c.Named name ∧ (name, holder) ∈ r ∧ holder.id = c.id

theorem records_nil : Records [] [] where
  distinct := List.nodup_nil
  named := fun _ h => absurd h List.not_mem_nil
  held := fun _ h => absurd h List.not_mem_nil

section Records

variable {r r' : Roll} {cs ds : List Contract} {c : Contract}

/-- A roll records one more contract once it is entered. -/
theorem Records.enter (h : Records r cs) (hc : r.enter c = .ok r') : Records r' (cs ++ [c]) := by
  have hdistinct : r'.Distinct := h.distinct.enter hc
  obtain ⟨t, ht, ⟨-, rfl⟩ | ⟨holder, hholder, hid, rfl⟩⟩ := enter_eq_ok hc
  · refine ⟨hdistinct, fun e he => ?_, fun d hd => ?_⟩
    · rcases List.mem_append.mp he with he | he
      · exact ⟨List.mem_append_left _ (h.named e he).1, (h.named e he).2⟩
      · rw [List.mem_singleton.mp he]
        exact ⟨List.mem_append_right _ List.mem_cons_self, t, ht, rfl⟩
    · rcases List.mem_append.mp hd with hd | hd
      · obtain ⟨name, holder, hname, hmem, hid⟩ := h.held d hd
        exact ⟨name, holder, hname, List.mem_append_left _ hmem, hid⟩
      · rw [List.mem_singleton.mp hd]
        exact ⟨t.name, c, ⟨t, ht, rfl⟩, List.mem_append_right _ List.mem_cons_self, rfl⟩
  · refine ⟨hdistinct, fun e he => ?_, fun d hd => ?_⟩
    · exact ⟨List.mem_append_left _ (h.named e he).1, (h.named e he).2⟩
    · rcases List.mem_append.mp hd with hd | hd
      · exact h.held d hd
      · rw [List.mem_singleton.mp hd]
        exact ⟨t.name, holder, ⟨t, ht, rfl⟩, h.distinct.lookup_eq_some_iff.mp hholder, hid⟩

/-- A roll records a row of contracts once they are entered. -/
theorem Records.enterAll (h : Records r cs) (hds : r.enterAll ds = .ok r') :
    Records r' (cs ++ ds) := by
  induction ds generalizing r cs with
  | nil =>
      cases hds
      rwa [List.append_nil]
  | cons d ds ih =>
      rw [Roll.enterAll] at hds
      cases hd : r.enter d with
      | error f =>
          rw [hd] at hds
          cases hds
      | ok r'' =>
          rw [hd] at hds
          have hrest := ih (h.enter hd) hds
          rwa [List.append_assoc, List.singleton_append] at hrest

/-- Contracts on record have names of their own. -/
theorem Records.namesApart (h : Records r cs) : NamesApart cs := by
  intro c hc d hd name hcname hdname
  have hholder : ∀ e ∈ cs, e.Named name → ∃ holder, r.lookup name = some holder ∧
      holder.id = e.id := by
    intro e he hename
    obtain ⟨other, holder, ⟨t, ht, rfl⟩, hmem, hid⟩ := h.held e he
    rw [(Contract.named_iff ht).mp hename]
    exact ⟨holder, h.distinct.lookup_eq_some_iff.mpr hmem, hid⟩
  obtain ⟨_, hc', hcid⟩ := hholder c hc hcname
  obtain ⟨_, hd', hdid⟩ := hholder d hd hdname
  rw [hc'] at hd'
  cases hd'
  exact hcid.symm.trans hdid

theorem Records.allNamed (h : Records r cs) : AllNamed cs := by
  intro c hc
  obtain ⟨name, _, hname, -⟩ := h.held c hc
  exact ⟨name, hname⟩

theorem Records.exists_enter (h : Records r cs) {name : String} (hname : c.Named name)
    (happart : NamesApart (cs ++ [c])) : ∃ r', r.enter c = .ok r' := by
  cases hc : r.enter c with
  | ok r' => exact ⟨r', rfl⟩
  | error f =>
      rcases enter_eq_error hc with htype | ⟨t, holder, ht, hholder, hid, -⟩
      · exact absurd hname (Contract.not_named htype name)
      · obtain ⟨hmem, hnamed⟩ := h.named _ (h.distinct.lookup_eq_some_iff.mp hholder)
        refine absurd ?_ hid
        exact happart holder (List.mem_append_left _ hmem) c
          (List.mem_append_right _ List.mem_cons_self) t.name hnamed ⟨t, ht, rfl⟩

/-- Contracts are entered exactly if all have names and no two share one, those on the
roll included. -/
theorem Records.exists_enterAll_iff (h : Records r cs) :
    (∃ r', r.enterAll ds = .ok r') ↔ AllNamed ds ∧ NamesApart (cs ++ ds) := by
  constructor
  · rintro ⟨r', hr'⟩
    have hall := h.enterAll hr'
    exact ⟨fun d hd => hall.allNamed d (List.mem_append_right _ hd), hall.namesApart⟩
  · rintro ⟨hnamed, happart⟩
    induction ds generalizing r cs with
    | nil => exact ⟨r, rfl⟩
    | cons d ds ih =>
        rw [← List.singleton_append, ← List.append_assoc] at happart
        obtain ⟨name, hname⟩ := hnamed d List.mem_cons_self
        have happartd : NamesApart (cs ++ [d]) := fun x hx y hy =>
          happart x (List.mem_append_left _ hx) y (List.mem_append_left _ hy)
        obtain ⟨r', hd⟩ := h.exists_enter hname happartd
        rw [Roll.enterAll, hd]
        exact ih (h.enter hd) (fun x hx => hnamed x (List.mem_cons_of_mem _ hx)) happart

/-- The first contract of a row that is not entered has no name, or a different contract
before it has its name. -/
theorem Records.enterAll_eq_error {f : Fault} (h : Records r cs) (hds : r.enterAll ds = .error f) :
    ∃ before d after, ds = before ++ d :: after ∧ AllNamed before ∧
      NamesApart (cs ++ before) ∧ Refused (cs ++ before) d f := by
  obtain ⟨before, d, after, r', rfl, hbefore, hd⟩ := Roll.enterAll_eq_error hds
  have hrecords := h.enterAll hbefore
  refine ⟨before, d, after, rfl, fun c hc => ?_, hrecords.namesApart, ?_⟩
  · exact hrecords.allNamed c (List.mem_append_right _ hc)
  · rcases enter_eq_error hd with htype | ⟨t, holder, ht, hholder, hid, rfl⟩
    · exact .unnamed htype
    · obtain ⟨hmem, hnamed⟩ := hrecords.named _ (hrecords.distinct.lookup_eq_some_iff.mp hholder)
      exact .clash ⟨⟨t, ht, rfl⟩, holder, hmem, hnamed, hid⟩

end Records

end Roll

/-! ## Registration and definition -/

/-- What the body of a contract leaves in the place of its configuration. -/
def ContractSpec.bodyMark (spec : ContractSpec) (id : Nat) : List (Nat × Offered Config) :=
  (spec.body.binding? markName).toList.map fun b => (id, .foreign b.asValue)

namespace Store

variable (c : Contract) (s : Store)

/-- Defining a class ends as the making of its contract does. -/
theorem result_define (spec : ContractSpec) :
    (define spec).result s = Contract.ofSpec s.nextId spec := by
  simp only [define, Step.result_bind, Step.result_get, Step.after_get, Step.result_ofExcept,
    Step.after_ofExcept, Step.result_set, Step.after_set]
  cases Contract.ofSpec s.nextId spec with
  | error f => rfl
  | ok d => cases spec.body.binding? markName <;> rfl

/-- A definition takes the next identity, and nothing else changes but for what the body
leaves in the place of a configuration. -/
theorem after_define (spec : ContractSpec) :
    (define spec).after s =
      match Contract.ofSpec s.nextId spec with
      | .ok d => { s with marks := spec.bodyMark d.id ++ s.marks, nextId := s.nextId + 1 }
      | .error _ => s := by
  simp only [define, ContractSpec.bodyMark, Step.after_bind, Step.result_get, Step.after_get,
    Step.result_ofExcept, Step.after_ofExcept, Step.result_set, Step.after_set]
  cases Contract.ofSpec s.nextId spec with
  | error f => rfl
  | ok d => cases spec.body.binding? markName <;> rfl

theorem result_register :
    (register c).result s = (Roll.enter s.registry c).map fun _ => () := by
  rw [register, Roll.enter]
  simp only [Step.result_bind, Step.result_ofExcept, Step.after_ofExcept, Step.result_get,
    Step.after_get]
  cases c.type with
  | error f => rfl
  | ok t =>
      simp only [get?]
      cases s.registry.lookup t.name with
      | none => rfl
      | some holder =>
          by_cases h : holder.id = c.id
          · simp only [h, ne_eq, not_true_eq_false, ↓reduceIte]
            rfl
          · simp only [h, ne_eq, not_false_eq_true, ↓reduceIte]
            rfl

/-- Registering changes the registry alone, and only if the entry goes well. -/
theorem after_register :
    (register c).after s =
      match Roll.enter s.registry c with
      | .ok r => { s with registry := r }
      | .error _ => s := by
  rw [register, Roll.enter]
  simp only [Step.after_bind, Step.result_ofExcept, Step.after_ofExcept, Step.result_get,
    Step.after_get]
  cases c.type with
  | error f => rfl
  | ok t =>
      simp only [get?]
      cases s.registry.lookup t.name with
      | none => rfl
      | some holder =>
          by_cases h : holder.id = c.id
          · simp only [h, ne_eq, not_true_eq_false, ↓reduceIte]
            rfl
          · simp only [h, ne_eq, not_false_eq_true, ↓reduceIte]
            rfl

end Store

end AuditAspects
