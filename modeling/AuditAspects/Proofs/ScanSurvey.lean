import AuditAspects.Proofs.ModuleCourse

/-!
# The marked classes of a project

A survey runs the courses of modules one after the other and notes what it finds: the
classes that markers were put on while a module ran, and then, unless the module failed,
the marked ones among the classes that it binds.  It registers nothing, and it stops at
the first module that fails.

A scan enters what a survey finds in the registry, finding by finding (`scanModules_eq`).
So it goes through exactly if no module fails and all classes can be entered
(`Roll.enterFindings_eq_ok_iff`), and otherwise the first finding that cannot be entered says
why (`Roll.enterFindings_eq_error`).
-/

namespace AuditAspects

/-! ## Classes that are bound -/

/-- The marked classes among those that are bound. -/
def Store.collected (s : Store) (bound : List (String × Contract)) : List Contract :=
  (bound.map Prod.snd).filter fun c => c.id ≠ Contract.entity.id && s.isMarked c

theorem result_collect_cons (name : String) (c : Contract) (rest : List (String × Contract))
    (s : Store) :
    (collect ((name, c) :: rest)).result s =
      if c.id ≠ Contract.entity.id && s.isMarked c then
        (Store.register c >>= fun _ => collect rest).result s
      else (collect rest).result s := by
  simp only [collect, Step.result_bind, Step.result_get, Step.after_get]
  cases hc : decide (c.id ≠ Contract.entity.id) && s.isMarked c with
  | true => simp [Step.result_bind]
  | false => simp

theorem after_collect_cons (name : String) (c : Contract) (rest : List (String × Contract))
    (s : Store) :
    (collect ((name, c) :: rest)).after s =
      if c.id ≠ Contract.entity.id && s.isMarked c then
        (Store.register c >>= fun _ => collect rest).after s
      else (collect rest).after s := by
  simp only [collect, Step.after_bind, Step.result_get, Step.after_get]
  cases hc : decide (c.id ≠ Contract.entity.id) && s.isMarked c with
  | true => simp [Step.after_bind]
  | false => simp

/-- Collecting bound classes ends as their entry in the roll does. -/
theorem result_collect (bound : List (String × Contract)) (s : Store) :
    (collect bound).result s =
      (Roll.enterAll s.registry (s.collected bound)).map fun _ => () := by
  induction bound generalizing s with
  | nil => rfl
  | cons e bound ih =>
      obtain ⟨name, c⟩ := e
      rw [result_collect_cons, Store.collected, List.map_cons, List.filter_cons]
      cases hc : decide (c.id ≠ Contract.entity.id) && s.isMarked c with
      | false => exact ih s
      | true =>
          rw [if_pos rfl, if_pos rfl, Roll.enterAll, Step.result_bind, Store.result_register,
            Store.after_register]
          cases Roll.enter s.registry c with
          | error f => rfl
          | ok r => exact ih { s with registry := r }

/-- What is collected is what the roll has gained. -/
theorem after_collect {bound : List (String × Contract)} {s : Store} {r : Roll}
    (h : Roll.enterAll s.registry (s.collected bound) = .ok r) :
    (collect bound).after s = { s with registry := r } := by
  induction bound generalizing s with
  | nil =>
      cases h
      rfl
  | cons e bound ih =>
      obtain ⟨name, c⟩ := e
      rw [Store.collected, List.map_cons, List.filter_cons] at h
      rw [after_collect_cons]
      cases hc : decide (c.id ≠ Contract.entity.id) && s.isMarked c with
      | false =>
          rw [hc] at h
          exact ih h
      | true =>
          rw [hc, if_pos rfl, Roll.enterAll] at h
          rw [if_pos rfl, Step.after_bind, Store.result_register, Store.after_register]
          cases hr : Roll.enter s.registry c with
          | error f =>
              rw [hr] at h
              cases h
          | ok r' =>
              rw [hr] at h
              exact ih (s := { s with registry := r' }) h

/-! ## Findings -/

/-- What a survey finds in a module. -/
structure Finding where
  /-- The name of the file. -/
  file : String
  /-- The classes that markers were put on, in order. -/
  decorated : List Contract
  /-- The marked classes among those that the module binds, or its fault. -/
  ending : Except Fault (List Contract)

/-- The classes of a finding. -/
def Finding.classes (x : Finding) : List Contract :=
  x.decorated ++ x.ending.toOption.getD []

/-- A module about to run beside the registry. -/
def Course.start (s : Store) : Course where
  store := { s with registry := [] }

/-- What a survey finds in a module, and the store that the module leaves. -/
def survey (shared : List (String × Contract)) (file : String) (items : List ModuleItem)
    (s : Store) : Finding × Store :=
  let k := (Course.runItems shared items).after (.start s)
  (⟨file, k.decorated,
    ((Course.runItems shared items).result (.start s)).map fun _ =>
      k.store.collected (sortBy (fun a b => textLe a.1 b.1) k.bindings)⟩, k.store)

/-- What a survey finds in modules, up to the first that fails. -/
def findings (shared : List (String × Contract)) :
    List (String × List ModuleItem) → Store → List Finding
  | [], _ => []
  | (file, items) :: rest, s =>
      let (x, s) := survey shared file items s
      match x.ending with
      | .error _ => [x]
      | .ok _ => x :: findings shared rest s

namespace Roll

/-- The roll after the classes of a finding are entered, or the fault that ends the
scan. -/
def enterFinding (r : Roll) (x : Finding) : Except Fault Roll :=
  match r.enterAll x.decorated with
  | .error f => .error (moduleFault x.file f)
  | .ok r =>
      match x.ending with
      | .error f => .error (moduleFault x.file f)
      | .ok cs => r.enterAll cs

/-- The roll after several findings are entered, or the fault that ends the scan. -/
def enterFindings (r : Roll) : List Finding → Except Fault Roll
  | [] => .ok r
  | x :: xs =>
      match r.enterFinding x with
      | .ok r => enterFindings r xs
      | .error f => .error f

end Roll

namespace Roll

variable {r r' : Roll} {x : Finding} {xs : List Finding} {f : Fault}

/-- A finding can be entered if its module ends well and its classes can be. -/
theorem enterFinding_eq_ok_iff :
    r.enterFinding x = .ok r' ↔
      (∃ cs, x.ending = .ok cs) ∧ r.enterAll x.classes = .ok r' := by
  rw [enterFinding, Finding.classes, enterAll_append]
  cases r.enterAll x.decorated with
  | error g => simp
  | ok r'' =>
      cases x.ending with
      | error g => simp
      | ok cs => simp [Except.toOption]

/-- Findings are entered exactly if no module failed and all classes are entered. -/
theorem enterFindings_eq_ok_iff :
    r.enterFindings xs = .ok r' ↔
      (∀ x ∈ xs, ∃ cs, x.ending = .ok cs) ∧
        r.enterAll (xs.flatMap Finding.classes) = .ok r' := by
  induction xs generalizing r with
  | nil => simp [enterFindings, enterAll]
  | cons x xs ih =>
      rw [enterFindings, List.flatMap_cons, enterAll_append, List.forall_mem_cons, and_assoc]
      cases hx : r.enterFinding x with
      | ok r'' =>
          obtain ⟨hending, hclasses⟩ := enterFinding_eq_ok_iff.mp hx
          simp only [hending, hclasses, true_and]
          exact ih
      | error f =>
          constructor
          · intro h
            cases h
          · rintro ⟨hending, -, hall⟩
            cases hclasses : r.enterAll x.classes with
            | ok r'' =>
                rw [enterFinding_eq_ok_iff.mpr ⟨hending, hclasses⟩] at hx
                cases hx
            | error g =>
                rw [hclasses] at hall
                cases hall

/-- Entering findings fails at the first that cannot be entered. -/
theorem enterFindings_eq_error (h : r.enterFindings xs = .error f) :
    ∃ before x after r', xs = before ++ x :: after ∧ r.enterFindings before = .ok r' ∧
      r'.enterFinding x = .error f := by
  induction xs generalizing r with
  | nil => cases h
  | cons x xs ih =>
      rw [enterFindings] at h
      cases hx : r.enterFinding x with
      | error g =>
          rw [hx] at h
          cases h
          exact ⟨[], x, xs, r, rfl, rfl, hx⟩
      | ok r' =>
          rw [hx] at h
          obtain ⟨before, y, after, r'', rfl, hbefore, hy⟩ := ih h
          refine ⟨x :: before, y, after, r'', rfl, ?_, hy⟩
          rw [enterFindings, hx]
          exact hbefore

end Roll

/-! ## Scans -/

section Scans

variable {shared : List (String × Contract)} {file : String} {items : List ModuleItem}

/-- A module ends with its bindings in the order of their names, or with the fault of an item.
-/
theorem result_runModule (s : Store) :
    (runModule shared file items).result s =
      match (ModuleScope.runItems shared items).result ⟨s, []⟩ with
      | .ok _ =>
          .ok (sortBy (fun a b => textLe a.1 b.1)
            ((ModuleScope.runItems shared items).after ⟨s, []⟩).bindings)
      | .error f => .error (moduleFault file f) := by
  simp only [Step.result, Step.after, runModule, EStateM.run]
  cases ModuleScope.runItems shared items ⟨s, []⟩ <;> rfl

theorem after_runModule (s : Store) :
    (runModule shared file items).after s =
      ((ModuleScope.runItems shared items).after ⟨s, []⟩).store := by
  simp only [Step.after, runModule, EStateM.run]
  cases ModuleScope.runItems shared items ⟨s, []⟩ <;> rfl

/-- A module that runs and is collected enters what a survey finds in it. -/
theorem scanModule_eq (shared : List (String × Contract)) (file : String)
    (items : List ModuleItem) (s : Store) :
    (scanModule shared file items).result s =
        (Roll.enterFinding s.registry (survey shared file items s).1).map (fun _ => ()) ∧
      ∀ r, Roll.enterFinding s.registry (survey shared file items s).1 = .ok r →
        (scanModule shared file items).after s =
          { (survey shared file items s).2 with registry := r } := by
  obtain ⟨new, hnew, -, hroll⟩ :=
    parallels_runItems shared items (Course.start s) s.registry
  have hdecorated : (survey shared file items s).1.decorated = new := hnew
  -- The course starts from the store without its registry; put back, it is where the module
  -- starts.
  have hscope : (Course.start s).withRoll s.registry = ⟨s, []⟩ := rfl
  rw [hscope] at hroll
  rw [scanModule, Step.result_bind, Step.after_bind, result_runModule, after_runModule,
    Roll.enterFinding, hdecorated]
  cases hentered : Roll.enterAll s.registry new with
  | error f =>
      rw [hentered] at hroll
      rw [hroll]
      exact ⟨rfl, fun r hr => by cases hr⟩
  | ok r =>
      rw [hentered] at hroll
      rw [hroll.1, hroll.2]
      cases hend : (Course.runItems shared items).result (.start s) with
      | error f =>
          have hending : (survey shared file items s).1.ending = .error f := by
            rw [survey, hend]
            rfl
          rw [hending]
          exact ⟨rfl, fun r hr => by cases hr⟩
      | ok _ =>
          have hending : (survey shared file items s).1.ending =
              .ok ((survey shared file items s).2.collected (sortBy (fun a b => textLe a.1 b.1)
                ((Course.runItems shared items).after (.start s)).bindings)) := by
            rw [survey, hend]
            rfl
          rw [hending]
          exact ⟨result_collect _ _, fun r' hr' => after_collect hr'⟩

theorem decorated_allNamed (s : Store) : AllNamed (survey shared file items s).1.decorated := by
  obtain ⟨new, hnew, hnamed, -⟩ := parallels_runItems shared items (Course.start s) []
  have hdecorated : (survey shared file items s).1.decorated = new := hnew
  rwa [hdecorated]

/-- What holds of every survey holds of all findings. -/
theorem forall_findings {P : Finding → Prop}
    (h : ∀ file items s, P (survey shared file items s).1)
    (files : List (String × List ModuleItem)) (s : Store) : ∀ x ∈ findings shared files s, P x := by
  induction files generalizing s with
  | nil => exact fun x hx => absurd hx List.not_mem_nil
  | cons e files ih =>
      obtain ⟨file, items⟩ := e
      simp only [findings]
      cases (survey shared file items s).1.ending with
      | error g =>
          intro x hx
          rw [List.mem_singleton.mp hx]
          exact h file items s
      | ok cs =>
          intro x hx
          rcases List.mem_cons.mp hx with rfl | hx
          · exact h file items s
          · exact ih _ x hx

/-- A survey goes through the files in their order. -/
theorem file_findings_prefix (files : List (String × List ModuleItem)) (s : Store) :
    (findings shared files s).map Finding.file <+: files.map Prod.fst := by
  induction files generalizing s with
  | nil => exact List.prefix_rfl
  | cons e files ih =>
      obtain ⟨file, items⟩ := e
      simp only [findings]
      cases (survey shared file items s).1.ending with
      | error g => exact ⟨files.map Prod.fst, rfl⟩
      | ok cs => exact List.prefix_cons_inj _ |>.mpr (ih _)

/-- A survey goes through all files unless a module fails. -/
theorem file_findings_eq {files : List (String × List ModuleItem)} {s : Store}
    (h : ∀ x ∈ findings shared files s, ∃ cs, x.ending = .ok cs) :
    (findings shared files s).map Finding.file = files.map Prod.fst := by
  induction files generalizing s with
  | nil => rfl
  | cons e files ih =>
      obtain ⟨file, items⟩ := e
      simp only [findings] at h ⊢
      cases hending : (survey shared file items s).1.ending with
      | ok cs =>
          rw [hending] at h
          exact congrArg (file :: ·) (ih fun x hx => h x (List.mem_cons_of_mem _ hx))
      | error g =>
          rw [hending] at h
          obtain ⟨cs, hcs⟩ := h _ List.mem_cons_self
          rw [hending] at hcs
          cases hcs

/-- A survey does not read the registry. -/
theorem findings_withRegistry (files : List (String × List ModuleItem)) (s : Store) (r : Roll) :
    findings shared files { s with registry := r } = findings shared files s := by
  cases files <;> rfl

/-- Modules are entered one after the other, each where the one before has left the store. -/
theorem enterFindings_cons (files : List (String × List ModuleItem)) (s : Store) (r : Roll) :
    Roll.enterFindings r (findings shared ((file, items) :: files) s) =
      match Roll.enterFinding r (survey shared file items s).1 with
      | .ok r => Roll.enterFindings r (findings shared files (survey shared file items s).2)
      | .error f => .error f := by
  simp only [findings]
  cases hending : (survey shared file items s).1.ending with
  | ok cs => rfl
  | error g =>
      simp only [Roll.enterFindings, Roll.enterFinding, hending]
      cases Roll.enterAll r (survey shared file items s).1.decorated <;> rfl

/-- A scan of modules enters what a survey of them finds. -/
theorem scanModules_eq (shared : List (String × Contract))
    (files : List (String × List ModuleItem)) (s : Store) :
    (scanModules shared files).result s =
        (Roll.enterFindings s.registry (findings shared files s)).map (fun _ => ()) ∧
      ∀ r, Roll.enterFindings s.registry (findings shared files s) = .ok r →
        ((scanModules shared files).after s).registry = r := by
  induction files generalizing s with
  | nil =>
      refine ⟨rfl, fun r hr => ?_⟩
      cases hr
      rfl
  | cons e files ih =>
      obtain ⟨file, items⟩ := e
      obtain ⟨hresult, hafter⟩ := scanModule_eq shared file items s
      rw [scanModules, enterFindings_cons]
      cases hentered : Roll.enterFinding s.registry (survey shared file items s).1 with
      | error f =>
          rw [hentered] at hresult
          rw [Step.result_bind_of_error _ hresult]
          exact ⟨rfl, fun r hr => by cases hr⟩
      | ok r =>
          rw [hentered] at hresult
          rw [Step.result_bind_of_ok _ hresult, Step.after_bind_of_ok _ hresult, hafter r hentered]
          -- The next module starts with the registry that this one leaves, and a survey of it
          -- does not read that.
          have hrest := ih { (survey shared file items s).2 with registry := r }
          rw [findings_withRegistry] at hrest
          exact hrest

end Scans

end AuditAspects
