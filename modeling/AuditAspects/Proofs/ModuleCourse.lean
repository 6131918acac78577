import AuditAspects.Project.Scan
import AuditAspects.Proofs.Enrolment

/-!
# What a module does apart from the registry

A `Course` is a module that runs beside the registry: it defines, marks and binds classes
as a module does, but notes the classes that markers are put on instead of registering
them.  So nobody is refused, and whether a course goes through is a matter of the module
alone.

A module runs as its course does, as long as the classes that it marks can be entered in
the roll one after the other; the first that cannot ends it (`parallels_runItems`).
-/

namespace AuditAspects

/-- A module that runs beside the registry, which stays as it is. -/
structure Course extends ModuleScope where
  /-- The classes that markers were put on, in order. -/
  decorated : List Contract := []

namespace Course

open ModuleScope

variable {α β : Type}

/-- A step on the scope of the module. -/
def onScope (x : Step ModuleScope α) : Step Course α := fun k =>
  match x.run k.toModuleScope with
  | .ok a m => .ok a { k with toModuleScope := m }
  | .error f m => .error f { k with toModuleScope := m }

/-- Marks a class whose type has a name. -/
def decorate (config : Config) (c : Contract) : Step Course Unit := do
  onScope (onStore (Store.attach c (.proper config)))
  let _ ← Step.ofExcept c.type
  modify fun k => { k with decorated := k.decorated ++ [c] }

/-- Defines a class and marks it. -/
def defineClass (spec : ClassSpec) : Step Course Unit := do
  let config ← Step.ofExcept (spec.marker.mapM Store.readMarker)
  let base ← onScope (baseOf spec.base)
  let c ← onScope (onStore (Store.define ⟨spec.name, base, spec.body, spec.clause⟩))
  match config with
  | some config => decorate config c
  | none => pure ()
  onScope (bindName spec.name c)

/-- Runs an item. -/
def runItem (shared : List (String × Contract)) : ModuleItem → Step Course Unit
  | .define spec => defineClass spec
  | item => onScope (ModuleScope.runItem shared item)

/-- Runs items from top to bottom. -/
def runItems (shared : List (String × Contract)) : List ModuleItem → Step Course Unit
  | [] => pure ()
  | item :: items => do
      runItem shared item
      runItems shared items

theorem result_onScope (x : Step ModuleScope α) (k : Course) :
    (onScope x).result k = x.result k.toModuleScope := by
  simp only [Step.result, onScope, EStateM.run]
  cases x k.toModuleScope <;> rfl

theorem after_onScope (x : Step ModuleScope α) (k : Course) :
    (onScope x).after k = { k with toModuleScope := x.after k.toModuleScope } := by
  simp only [Step.after, onScope, EStateM.run]
  cases x k.toModuleScope <;> rfl

end Course

/-! ## Steps that do not read the registry -/

/-- A scope with another roll in its registry. -/
def ModuleScope.withRoll (m : ModuleScope) (r : Roll) : ModuleScope :=
  { m with store := { m.store with registry := r } }

namespace ModuleScope

variable {α β : Type}

theorem result_onStore (x : Step Store α) (m : ModuleScope) :
    (onStore x).result m = x.result m.store := by
  simp only [Step.result, onStore, EStateM.run]
  cases x m.store <;> rfl

theorem after_onStore (x : Step Store α) (m : ModuleScope) :
    (onStore x).after m = { m with store := x.after m.store } := by
  simp only [Step.after, onStore, EStateM.run]
  cases x m.store <;> rfl

/-- A step does the same under every roll and leaves the roll alone. -/
def Rollless (x : Step ModuleScope α) : Prop :=
  ∀ m r, x.result (m.withRoll r) = x.result m ∧ x.after (m.withRoll r) = (x.after m).withRoll r

theorem rollless_throw (f : Fault) : Rollless (throw f : Step ModuleScope α) :=
  fun _ _ => ⟨rfl, rfl⟩

theorem rollless_bindName (name : String) (c : Contract) : Rollless (bindName name c) :=
  fun _ _ => ⟨rfl, rfl⟩

theorem rollless_define (spec : ContractSpec) : Rollless (onStore (Store.define spec)) := by
  intro m r
  rw [result_onStore, result_onStore, after_onStore, after_onStore, Store.result_define,
    Store.result_define, Store.after_define, Store.after_define]
  refine ⟨rfl, ?_⟩
  simp only [withRoll]
  cases Contract.ofSpec m.store.nextId spec <;> rfl

/-- The class of a name that another class derives from. -/
def baseIn (bindings : List (String × Contract)) : Option String → Except Fault Contract
  | none => .ok .entity
  | some name =>
      match bindings.lookup name with
      | some c => .ok c
      | none => if name = Contract.entity.name then .ok .entity else .error (.nameUnbound name)

/-- A base is looked up among the bindings, and nothing changes. -/
theorem baseOf_eq (name : Option String) (m : ModuleScope) :
    (baseOf name).result m = baseIn m.bindings name ∧ (baseOf name).after m = m := by
  cases name with
  | none => exact ⟨rfl, rfl⟩
  | some name =>
      simp only [baseOf, baseIn, Step.result_bind, Step.after_bind, Step.result_get, Step.after_get]
      cases m.bindings.lookup name with
      | some c => exact ⟨rfl, rfl⟩
      | none =>
          by_cases h : name = Contract.entity.name
          · simp only [h, ↓reduceIte]
            exact ⟨rfl, rfl⟩
          · simp only [h, ↓reduceIte]
            exact ⟨rfl, rfl⟩

theorem rollless_baseOf (name : Option String) : Rollless (baseOf name) := by
  intro m r
  rw [(baseOf_eq name _).1, (baseOf_eq name _).1, (baseOf_eq name _).2, (baseOf_eq name _).2]
  exact ⟨rfl, rfl⟩

end ModuleScope

/-! ## Courses beside modules -/

/-- A step of a module goes as a step of its course, if the classes that the course marks
are entered; the first that is refused ends it. -/
def Parallels {α : Type} (x : Step Course α) (y : Step ModuleScope α) : Prop :=
  ∀ k r, ∃ new, (x.after k).decorated = k.decorated ++ new ∧ AllNamed new ∧
    match Roll.enterAll r new with
    | .ok r' => y.result (k.withRoll r) = x.result k ∧
        y.after (k.withRoll r) = (x.after k).withRoll r'
    | .error f => y.result (k.withRoll r) = .error f

section Parallels

open ModuleScope

variable {α β : Type}

theorem allNamed_nil : AllNamed [] := fun _ h => absurd h List.not_mem_nil

theorem AllNamed.append {cs ds : List Contract} (hcs : AllNamed cs) (hds : AllNamed ds) :
    AllNamed (cs ++ ds) := by
  intro c hc
  rcases List.mem_append.mp hc with hc | hc
  · exact hcs c hc
  · exact hds c hc

/-- A step that does not look at the registry runs in parallel with itself. -/
theorem Parallels.ofRollless {x : Step ModuleScope α} (h : Rollless x) :
    Parallels (Course.onScope x) x := by
  intro k r
  refine ⟨[], ?_, allNamed_nil, ?_⟩
  · rw [Course.after_onScope, List.append_nil]
  · rw [Course.result_onScope, Course.after_onScope]
    exact h k.toModuleScope r

theorem parallels_ofExcept (e : Except Fault α) :
    Parallels (Step.ofExcept e) (Step.ofExcept e) := by
  intro k r
  refine ⟨[], ?_, allNamed_nil, ?_⟩
  · rw [Step.after_ofExcept, List.append_nil]
  · rw [Step.result_ofExcept, Step.result_ofExcept, Step.after_ofExcept, Step.after_ofExcept]
    exact ⟨rfl, rfl⟩

theorem parallels_pure (a : α) : Parallels (pure a) (pure a) := parallels_ofExcept (.ok a)

theorem Parallels.bind {x : Step Course α} {y : Step ModuleScope α} {k : α → Step Course β}
    {l : α → Step ModuleScope β} (hxy : Parallels x y) (hkl : ∀ a, Parallels (k a) (l a)) :
    Parallels (x >>= k) (y >>= l) := by
  intro c r
  obtain ⟨new, hnew, hnamed, hroll⟩ := hxy c r
  cases hx : x.result c with
  | error f =>
      refine ⟨new, ?_, hnamed, ?_⟩
      · rw [Step.after_bind_of_error k hx, hnew]
      · cases hr : Roll.enterAll r new with
        | error g =>
            rw [hr] at hroll
            exact Step.result_bind_of_error l hroll
        | ok r' =>
            rw [hr, hx] at hroll
            rw [Step.result_bind_of_error l hroll.1, Step.after_bind_of_error l hroll.1,
              Step.result_bind_of_error k hx, Step.after_bind_of_error k hx]
            exact ⟨rfl, hroll.2⟩
  | ok a =>
      cases hr : Roll.enterAll r new with
      | error g =>
          -- The course goes on after a refusal, but the module does not.
          obtain ⟨later, hlater, hlaterNamed, -⟩ := hkl a (x.after c) []
          rw [hr] at hroll
          refine ⟨new ++ later, ?_, hnamed.append hlaterNamed, ?_⟩
          · rw [Step.after_bind_of_ok k hx, hlater, hnew, List.append_assoc]
          · rw [Roll.enterAll_append, hr]
            exact Step.result_bind_of_error l hroll
      | ok r' =>
          obtain ⟨later, hlater, hlaterNamed, hlaterRoll⟩ := hkl a (x.after c) r'
          rw [hr, hx] at hroll
          refine ⟨new ++ later, ?_, hnamed.append hlaterNamed, ?_⟩
          · rw [Step.after_bind_of_ok k hx, hlater, hnew, List.append_assoc]
          · rw [Roll.enterAll_append, hr, Step.result_bind_of_ok l hroll.1,
              Step.after_bind_of_ok l hroll.1, Step.result_bind_of_ok k hx,
              Step.after_bind_of_ok k hx, hroll.2]
            exact hlaterRoll

/-- Marking a class is marking it beside the registry and entering it. -/
theorem parallels_decorate (config : Config) (c : Contract) :
    Parallels (Course.decorate config c) (onStore (Store.mark config c)) := by
  intro k r
  have hresult : (onStore (Store.mark config c)).result (k.withRoll r) =
      (Roll.enter r c).map fun _ => () := by
    rw [result_onStore, Store.mark, Step.result_bind]
    exact Store.result_register c _
  have hafter : (onStore (Store.mark config c)).after (k.withRoll r) =
      { k.withRoll r with
        store := (Store.register c).after ((Store.attach c (.proper config)).after
          (k.withRoll r).store) } := by
    rw [after_onStore, Store.mark, Step.after_bind]
    rfl
  cases hc : c.type with
  | error f =>
      refine ⟨[], ?_, allNamed_nil, ?_⟩
      · simp only [Course.decorate, Step.after_bind, Course.result_onScope, Course.after_onScope,
          Step.result_ofExcept, Step.after_ofExcept, hc, List.append_nil]
        rfl
      · have henter : Roll.enter r c = .error f := by rw [Roll.enter, hc]
        have hattached : (Store.register c).after ((Store.attach c (.proper config)).after
            (k.withRoll r).store) =
          (Store.attach c (.proper config)).after (k.withRoll r).store := by
          rw [Store.after_register]
          simp only [Roll.enter, hc]
        rw [Roll.enterAll, hresult, hafter, henter, hattached]
        simp only [Course.decorate, Step.result_bind, Step.after_bind, Course.result_onScope,
          Course.after_onScope, Step.result_ofExcept, Step.after_ofExcept, hc]
        exact ⟨rfl, rfl⟩
  | ok t =>
      refine ⟨[c], ?_, ?_, ?_⟩
      · simp only [Course.decorate, Step.after_bind, Course.result_onScope, Course.after_onScope,
          Step.result_ofExcept, Step.after_ofExcept, hc]
        rfl
      · intro d hd
        rw [List.mem_singleton.mp hd]
        exact ⟨t.name, t, hc, rfl⟩
      · rw [Roll.enterAll, hresult, hafter, Store.after_register]
        have hroll : ((Store.attach c (.proper config)).after (k.withRoll r).store).registry = r :=
          rfl
        rw [hroll]
        cases Roll.enter r c with
        | error f => rfl
        | ok r' =>
            simp only [Roll.enterAll, Course.decorate, Step.result_bind, Step.after_bind,
              Course.result_onScope, Course.after_onScope, Step.result_ofExcept,
              Step.after_ofExcept, hc]
            exact ⟨rfl, rfl⟩

theorem parallels_defineClass (spec : ClassSpec) :
    Parallels (Course.defineClass spec) (ModuleScope.defineClass spec) := by
  refine (parallels_ofExcept _).bind fun config => ?_
  refine (Parallels.ofRollless (rollless_baseOf _)).bind fun base => ?_
  refine (Parallels.ofRollless (rollless_define _)).bind fun c => ?_
  cases config with
  | none =>
      exact (parallels_pure ()).bind fun _ => .ofRollless (rollless_bindName _ _)
  | some config =>
      exact (parallels_decorate config c).bind fun _ => .ofRollless (rollless_bindName _ _)

theorem parallels_runItem (shared : List (String × Contract)) (item : ModuleItem) :
    Parallels (Course.runItem shared item) (ModuleScope.runItem shared item) := by
  cases item with
  | define spec => exact parallels_defineClass spec
  | fail kind text => exact .ofRollless (rollless_throw _)
  | bring name newName =>
      refine .ofRollless ?_
      rw [ModuleScope.runItem]
      cases shared.lookup name with
      | some c => exact rollless_bindName _ _
      | none => exact rollless_throw _

/-- A module runs as its course does, if the classes that it marks can be entered. -/
theorem parallels_runItems (shared : List (String × Contract)) (items : List ModuleItem) :
    Parallels (Course.runItems shared items) (ModuleScope.runItems shared items) := by
  induction items with
  | nil => exact parallels_pure ()
  | cons item items ih => exact (parallels_runItem shared item).bind fun _ => ih

end Parallels

end AuditAspects
