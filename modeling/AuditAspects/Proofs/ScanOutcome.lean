import AuditAspects.Proofs.GrownStores
import AuditAspects.Proofs.KeptCode
import Mathlib.Logic.Function.Iterate

/-!
# How a scan ends

A scan goes through exactly if no entity module fails, all marked classes have names, and
different ones have different names.  Then it gives the registry that it leaves, which holds
just the marked classes by their names.  Otherwise the first file decides at which something
goes wrong, and `ScanFault` says what that can be.

A scan forgets what was registered before.  The classes of earlier scans do not matter
either, except that the scan defines its own classes under identities that are still free
(`SameProject.matches_scan`).  This covers all that scans leave behind, failed ones included
(`SameProject.after_scan`).
-/

namespace AuditAspects

namespace Session

open Step

/-- The store in which a scan starts. -/
def cleared (s : Session) : Store := { s.store with registry := [] }

/-- A session whose entity modules have been run and collected. -/
def scanned (s : Session) : Session :=
  { s with store := (scanModules s.shared s.entityModules).after s.cleared }

/-- A scan runs and collects the entity modules, if there is a place for them.  Apart from
that it changes the log and keeps the code of modules. -/
theorem scan_ends (s : Session) :
    ∃ log loaded, (∀ l ∈ loaded, s.IsModule l) ∧
      scan.result s =
          (if s.tree.hasEntry s.entitiesDir then
            ((scanModules s.shared s.entityModules).result s.cleared).map fun _ =>
              s.scanned.store.registry
          else .ok []) ∧
        scan.after s =
          { (if s.tree.hasEntry s.entitiesDir then s.scanned else { s with store := s.cleared })
            with log := log, kept := s.kept ++ s.keptOf loaded } := by
  have hclear : (onStore Store.clear).result s = .ok () := rfl
  have hcleared : (onStore Store.clear).after s = { s with store := s.cleared } := rfl
  have hdir : ({ s with store := s.cleared } : Session).entitiesDir = s.entitiesDir := rfl
  have hmodules : ({ s with store := s.cleared } : Session).entityModules = s.entityModules := rfl
  rw [scan, result_bind_of_ok _ hclear, after_bind_of_ok _ hclear, hcleared,
    result_bind_of_ok _ (result_get _), after_bind_of_ok _ (result_get _), after_get, hdir]
  by_cases h : s.tree.hasEntry s.entitiesDir
  · obtain ⟨hresult, loaded, hinitial, hafter⟩ :=
      loadModules_ends s.entitiesDir s.entityModules { s with store := s.cleared }
    have hloaded : ∀ l ∈ loaded, s.IsModule l := by
      intro l hl
      obtain ⟨e, he, rfl⟩ := List.mem_map.mp (hinitial.subset hl)
      exact .inr ⟨e, he, rfl⟩
    simp only [h, ↓reduceIte, result_bind, after_bind, hmodules, hresult, hafter]
    cases (scanModules s.shared s.entityModules).result s.cleared with
    | error f => exact ⟨s.log, loaded, hloaded, rfl, rfl⟩
    | ok _ => exact ⟨_, loaded, hloaded, rfl, rfl⟩
  · rw [if_neg h, if_neg h, if_neg h]
    refine ⟨s.log ++ [⟨.warning, "No entities directory at " ++ s.entitiesDir.text⟩], [],
      fun l hl => absurd hl List.not_mem_nil, rfl, ?_⟩
    rw [keptOf_nil, List.append_nil]
    rfl

/-! ## What there is to find -/

/-- What a survey finds in the entity modules of a project. -/
def found (s : Session) : List Finding :=
  if s.tree.hasEntry s.entitiesDir then findings s.shared s.entityModules s.store else []

/-- The marked classes of a project. -/
def audited (s : Session) : List Contract := s.found.flatMap Finding.classes

/-- A scan enters what a survey finds in an empty registry, and leaves the registry that it
gives. -/
theorem scan_eq (s : Session) :
    scan.result s = Roll.enterFindings [] s.found ∧
      ∀ es, scan.result s = .ok es → (scan.after s).store.registry = es := by
  obtain ⟨log, loaded, -, hends, hafter⟩ := s.scan_ends
  rw [hends, hafter, found]
  by_cases h : s.tree.hasEntry s.entitiesDir
  · obtain ⟨hresult, hregistry⟩ := scanModules_eq s.shared s.entityModules s.cleared
    have hfound : findings s.shared s.entityModules s.cleared =
        findings s.shared s.entityModules s.store := findings_withRegistry _ _ _
    rw [hfound] at hresult hregistry
    rw [if_pos h, if_pos h, if_pos h, hresult]
    cases hr : Roll.enterFindings [] (findings s.shared s.entityModules s.store) with
    | error f =>
        have hcleared : Roll.enterFindings s.cleared.registry
            (findings s.shared s.entityModules s.store) = .error f := hr
        rw [hcleared]
        exact ⟨rfl, fun es hes => by cases hes⟩
    | ok r =>
        have hcleared : Roll.enterFindings s.cleared.registry
            (findings s.shared s.entityModules s.store) = .ok r := hr
        have hleft : s.scanned.store.registry = r := hregistry r hcleared
        rw [hcleared]
        refine ⟨congrArg Except.ok hleft, fun es hes => ?_⟩
        cases hes
        rfl
  · rw [if_neg h, if_neg h, if_neg h]
    refine ⟨rfl, fun es hes => ?_⟩
    cases hes
    rfl

/-- A scan goes through exactly if all modules end well and all audited classes can be entered.
-/
theorem scan_eq_ok_iff {s : Session} {es : List (String × Contract)} :
    scan.result s = .ok es ↔
      (∀ x ∈ s.found, ∃ cs, x.ending = .ok cs) ∧ Roll.enterAll [] s.audited = .ok es := by
  rw [s.scan_eq.1]
  exact Roll.enterFindings_eq_ok_iff

/-- What a scan gives records the audited classes that were found. -/
theorem records_of_scan {s : Session} {es : List (String × Contract)}
    (h : scan.result s = .ok es) : Roll.Records es s.audited :=
  Roll.records_nil.enterAll (scan_eq_ok_iff.mp h).2

theorem entityModules_pairwise (s : Session) :
    (s.entityModules.map Prod.fst).Pairwise fun a b => textLe a b := by
  have hfiles : (s.tree.entriesOf s.entitiesDir).Pairwise fun a b => textLe a.1 b.1 :=
    sortBy_key_pairwise Prod.fst _
  rw [entityModules, List.map_map, List.pairwise_map]
  exact hfiles.filter _

/-- Modules are found in this order, as far as the scan goes. -/
theorem file_found_prefix (s : Session) :
    s.found.map Finding.file <+: s.entityModules.map Prod.fst := by
  rw [found]
  split
  · exact file_findings_prefix _ _
  · exact List.nil_prefix

/-- Where all modules end well, all of them are found. -/
theorem file_found_eq {s : Session} (h : ∀ x ∈ s.found, ∃ cs, x.ending = .ok cs)
    (hentry : s.tree.hasEntry s.entitiesDir) :
    s.found.map Finding.file = s.entityModules.map Prod.fst := by
  rw [found, if_pos hentry] at h ⊢
  exact file_findings_eq h

theorem found_decorated_allNamed (s : Session) : ∀ x ∈ s.found, AllNamed x.decorated := by
  rw [found]
  split
  · exact forall_findings (fun _ _ _ => decorated_allNamed _) _ _
  · exact fun x hx => absurd hx List.not_mem_nil

/-! ## One project at two times -/

/-- Sessions on one project, with whatever registries and classes of earlier scans. -/
structure SameProject (s t : Session) : Prop where
  tree : t.tree = s.tree
  root : t.root = s.root
  shared : t.shared = s.shared
  sound : s.store.Sound s.shared
  sound' : t.store.Sound s.shared
  attached_entity : t.store.attached .entity = s.store.attached .entity
  attached_shared : ∀ e ∈ s.shared, t.store.attached e.2 = s.store.attached e.2

/-- The identities of classes at two times: those from outside of the project keep theirs. -/
def SameProject.renewal {s t : Session} (h : SameProject s t) : Renewal where
  known := Contract.entity.id :: s.shared.map fun e => e.2.id
  free := s.store.nextId
  newFree := t.store.nextId
  known_lt := by
    intro i hi
    rcases List.mem_cons.mp hi with rfl | hi
    · exact h.sound.entity_lt
    · obtain ⟨e, he, rfl⟩ := List.mem_map.mp hi
      exact h.sound.shared_lt e he
  known_lt_new := by
    intro i hi
    rcases List.mem_cons.mp hi with rfl | hi
    · exact h.sound'.entity_lt
    · obtain ⟨e, he, rfl⟩ := List.mem_map.mp hi
      exact h.sound'.shared_lt e he

section SameProject

variable {s t : Session}

/-- The same project starts its scans from paired stores. -/
theorem SameProject.pairs (h : SameProject s t) : h.renewal.Pairs s.cleared t.cleared := by
  have hnextId : t.store.nextId = h.renewal.renew s.store.nextId := by
    have hfree : h.renewal.renew s.store.nextId = s.store.nextId - s.store.nextId + t.store.nextId :=
      Renewal.renew_free (Nat.le_refl _)
    rw [hfree, Nat.sub_self, Nat.zero_add]
  refine ⟨rfl, fun e he => absurd he List.not_mem_nil, Nat.le_refl _, hnextId, fun i hi => ?_⟩
  rcases hi with hi | hi
  · rw [Renewal.renew_known hi]
    rcases List.mem_cons.mp hi with rfl | hi
    · exact h.attached_entity
    · obtain ⟨e, he, rfl⟩ := List.mem_map.mp hi
      exact h.attached_shared e he
  · rw [Renewal.renew_free hi]
    exact (h.sound'.clean _ (Nat.le_add_left ..)).trans (h.sound.clean i hi).symm

/-- Scans of one project at two times end alike and leave the same registry, up to the
identities of the classes that they define. -/
theorem SameProject.matches_scan (h : SameProject s t) :
    Matches (fun es es' => es' = renewAll h.renewal es) (scan.result s) (scan.result t) ∧
      (scan.after t).store.registry = renewAll h.renewal (scan.after s).store.registry := by
  have hdir : t.tree.hasEntry t.entitiesDir = s.tree.hasEntry s.entitiesDir := by
    rw [entitiesDir, entitiesDir, h.tree, h.root]
  have hmodules : t.entityModules = s.entityModules := by
    rw [entityModules, entityModules, entitiesDir, entitiesDir, h.tree, h.root]
  obtain ⟨log, loaded, -, hs, hs'⟩ := s.scan_ends
  obtain ⟨log', loaded', -, ht, ht'⟩ := t.scan_ends
  rw [hs, ht, hs', ht', hdir]
  by_cases hentry : s.tree.hasEntry s.entitiesDir
  · have hknown : ∀ e ∈ s.shared, e.2.id ∈ h.renewal.known := fun e he =>
      List.mem_cons_of_mem _ (List.mem_map_of_mem he)
    have hentity : Contract.entity.id ∈ h.renewal.known := List.mem_cons_self
    obtain ⟨hend, hleft⟩ := related_scanModules hentity hknown s.entityModules _ _ h.pairs
    rw [if_pos hentry, if_pos hentry, if_pos hentry, if_pos hentry, scanned, scanned, h.shared,
      hmodules]
    refine ⟨?_, hleft.registry⟩
    rcases matches_iff.mp hend with ⟨f, hs, ht⟩ | ⟨_, _, hs, ht, -⟩
    · rw [hs, ht]
      exact rfl
    · rw [hs, ht]
      exact hleft.registry
  · rw [if_neg hentry, if_neg hentry, if_neg hentry, if_neg hentry]
    exact ⟨rfl, rfl⟩

/-- A project with a sound store is the same as itself. -/
theorem sameProject_refl (h : s.store.Sound s.shared) : SameProject s s :=
  ⟨rfl, rfl, rfl, h, h, rfl, fun _ _ => rfl⟩

/-- A scan leaves the same project behind, whether it goes through or fails. -/
theorem SameProject.after_scan (h : SameProject s t) : SameProject s (scan.after t) := by
  obtain ⟨log, loaded, -, -, ht⟩ := t.scan_ends
  have hcleared : t.store.GrownFrom t.cleared :=
    ⟨Nat.le_refl _, fun _ _ => rfl, h.sound'.clean⟩
  have hshared : ∀ e ∈ t.shared, e.2.id < t.store.nextId := by
    rw [h.shared]
    exact h.sound'.shared_lt
  have hgrown : t.store.GrownFrom (scan.after t).store := by
    rw [ht]
    by_cases hentry : t.tree.hasEntry t.entitiesDir
    · rw [if_pos hentry]
      exact (Store.leads_scanModules hshared t.entityModules).after hcleared
    · rw [if_neg hentry]
      exact hcleared
  have hframe : (scan.after t).tree = t.tree ∧ (scan.after t).root = t.root ∧
      (scan.after t).shared = t.shared := by
    rw [ht]
    split <;> exact ⟨rfl, rfl, rfl⟩
  refine ⟨hframe.1.trans h.tree, hframe.2.1.trans h.root, hframe.2.2.trans h.shared, h.sound,
    hgrown.sound h.sound', ?_, fun e he => ?_⟩
  · exact (hgrown.kept _ h.sound'.entity_lt).trans h.attached_entity
  · exact (hgrown.kept _ (h.sound'.shared_lt e he)).trans (h.attached_shared e he)

/-- A project stays the same however often it is scanned. -/
theorem sameProject_iterate_scan (h : s.store.Sound s.shared) (n : Nat) :
    SameProject s (scan.after^[n] s) := by
  induction n with
  | zero => exact sameProject_refl h
  | succ n ih =>
      rw [Function.iterate_succ_apply']
      exact ih.after_scan

end SameProject

end Session

/-! ## How a scan ends -/

/-- Why a scan ends at a finding, after the classes of the modules before. -/
inductive ScanFault (earlier : List Contract) (x : Finding) : Fault → Prop
  /-- The module fails with a fault of auditing, which is handed on. -/
  | handedOn {g : Fault} (happart : NamesApart (earlier ++ x.decorated))
      (hending : x.ending = .error g) (hg : g.isAuditing = true) : ScanFault earlier x g
  /-- The module fails with another fault. -/
  | wrapped {g : Fault} (happart : NamesApart (earlier ++ x.decorated))
      (hending : x.ending = .error g) (hg : g.isAuditing = false) :
      ScanFault earlier x (.entityModuleFailed x.file g.message)
  /-- The module puts a marker on a class whose name a different one has, and so fails. -/
  | markedTwice {before after : List Contract} {c : Contract} {name : String}
      (hdecorated : x.decorated = before ++ c :: after) (happart : NamesApart (earlier ++ before))
      (hclash : Clashes (earlier ++ before) c name) :
      ScanFault earlier x (.entityModuleFailed x.file (Fault.entityRegistered name).message)
  /-- The module binds a marked class whose name a different one has. -/
  | boundTwice {before after : List Contract} {c : Contract} {name : String}
      (hending : x.ending = .ok (before ++ c :: after))
      (happart : NamesApart (earlier ++ x.decorated ++ before))
      (hclash : Clashes (earlier ++ x.decorated ++ before) c name) :
      ScanFault earlier x (.entityRegistered name)
  /-- The module binds a marked class that has no name. -/
  | unnamed {before after : List Contract} {c : Contract} {g : Fault}
      (hending : x.ending = .ok (before ++ c :: after))
      (happart : NamesApart (earlier ++ x.decorated ++ before)) (hc : c.type = .error g) :
      ScanFault earlier x g

/-- A finding that cannot be entered fails in one of these ways: its classes with markers are
entered first, then its module may fail, and only then are the classes that it binds entered. -/
theorem scanFault_of_enterFinding {r : Roll} {earlier : List Contract} {x : Finding} {f : Fault}
    (h : Roll.Records r earlier) (hnamed : AllNamed x.decorated)
    (hf : r.enterFinding x = .error f) : ScanFault earlier x f := by
  rw [Roll.enterFinding] at hf
  cases hdecorated : r.enterAll x.decorated with
  | error g =>
      rw [hdecorated] at hf
      cases hf
      obtain ⟨before, c, after, hx, -, happart, hrefused⟩ := h.enterAll_eq_error hdecorated
      cases hrefused with
      | unnamed htype =>
          obtain ⟨name, hname⟩ := hnamed c (hx ▸ List.mem_append_right _ List.mem_cons_self)
          exact absurd hname (Contract.not_named htype name)
      | clash hclash => exact .markedTwice hx happart hclash
  | ok r' =>
      have hentered := h.enterAll hdecorated
      rw [hdecorated] at hf
      cases hending : x.ending with
      | error g =>
          simp only [hending, Except.error.injEq] at hf
          subst hf
          rw [moduleFault]
          by_cases hg : g.isAuditing = true
          · rw [if_pos hg]
            exact .handedOn hentered.namesApart hending hg
          · rw [if_neg hg]
            exact .wrapped hentered.namesApart hending ((Bool.not_eq_true _).mp hg)
      | ok cs =>
          simp only [hending] at hf
          obtain ⟨before, c, after, rfl, -, happart, hrefused⟩ := hentered.enterAll_eq_error hf
          cases hrefused with
          | unnamed htype => exact .unnamed hending happart htype
          | clash hclash => exact .boundTwice hending happart hclash

namespace Session

/-- How a scan of a session ends. -/
structure ScanOutcome (s : Session) : Prop where
  /-- Files are surveyed in ascending order of their names, and all of them unless a module
  fails. -/
  order : (s.entityModules.map Prod.fst).Pairwise (fun a b => textLe a b) ∧
    s.found.map Finding.file <+: s.entityModules.map Prod.fst ∧
    ((∀ x ∈ s.found, ∃ cs, x.ending = .ok cs) → s.tree.hasEntry s.entitiesDir →
      s.found.map Finding.file = s.entityModules.map Prod.fst)
  /-- It goes through exactly if no module fails, and all marked classes have names that no
  different ones have. -/
  ok_iff : (∃ es, scan.result s = .ok es) ↔
    (∀ x ∈ s.found, ∃ cs, x.ending = .ok cs) ∧ AllNamed s.audited ∧ NamesApart s.audited
  /-- Then it gives the registry that it leaves, which records all marked classes. -/
  answer : ∀ es, scan.result s = .ok es →
    (scan.after s).store.registry = es ∧ Roll.Records es s.audited
  /-- Otherwise the first file decides at which something goes wrong. -/
  failed : ∀ f, scan.result s = .error f →
    ∃ before x after, s.found = before ++ x :: after ∧
      (∀ y ∈ before, ∃ cs, y.ending = .ok cs) ∧ NamesApart (before.flatMap Finding.classes) ∧
      ScanFault (before.flatMap Finding.classes) x f
  /-- What was registered before does not matter at all. -/
  forgets : ∀ r, scan.run { s with store := { s.store with registry := r } } = scan.run s
  /-- Nor do the classes of earlier scans, up to the identities of those that it defines. -/
  renews : ∀ t (h : SameProject s t),
    Step.Matches (fun es es' => es' = renewAll h.renewal es) (scan.result s) (scan.result t) ∧
      (scan.after t).store.registry = renewAll h.renewal (scan.after s).store.registry

theorem scanOutcome (s : Session) : ScanOutcome s := by
  obtain ⟨hresult, hregistry⟩ := s.scan_eq
  refine {
    order := ⟨s.entityModules_pairwise, s.file_found_prefix, file_found_eq⟩
    ok_iff := ?_
    answer := fun es hes => ⟨hregistry es hes, records_of_scan hes⟩
    failed := fun f hf => ?_
    forgets := fun _ => rfl
    renews := fun _ h => h.matches_scan }
  · have hall : (∃ es, Roll.enterAll [] s.audited = .ok es) ↔
        AllNamed s.audited ∧ NamesApart s.audited := Roll.records_nil.exists_enterAll_iff
    simp only [scan_eq_ok_iff, exists_and_left, hall]
  · rw [hresult] at hf
    obtain ⟨before, x, after, r, hfound, hbefore, hx⟩ := Roll.enterFindings_eq_error hf
    obtain ⟨hendings, hclasses⟩ := Roll.enterFindings_eq_ok_iff.mp hbefore
    have hearlier : Roll.Records r (before.flatMap Finding.classes) :=
      Roll.records_nil.enterAll hclasses
    have hmem : x ∈ s.found := hfound ▸ List.mem_append_right _ List.mem_cons_self
    exact ⟨before, x, after, hfound, hendings, hearlier.namesApart,
      scanFault_of_enterFinding hearlier (s.found_decorated_allNamed x hmem) hx⟩

/-- A project that has nothing but entity modules. -/
def ofModules (modules : List (String × List ModuleItem)) : Session where
  root := {}
  tree :=
    { files := modules.map fun e =>
        ((Location.ofText "entities").child e.1, ⟨"", .entities e.2⟩) }

/-- An audited class in a package. -/
def auditedClass (name package : String) : ModuleItem :=
  .define { name := name, marker := some [], clause := .given { package := some (.text package) } }

/-- A project with a class that its body marks and whose type cannot be asked for. -/
def unnamedClass : Session :=
  ofModules [("a.py", [.define {
    name := "A"
    body := [(markName, .value (.int 1)), (Question.type.operation, .value (.int 3))] }])]

/-- A scan can fail although no module fails and no two marked classes share a name. -/
theorem scan_unnamedClass :
    (∀ x ∈ unnamedClass.found, ∃ cs, x.ending = .ok cs) ∧
      NamesApart unnamedClass.audited ∧
      (scan.result unnamedClass).map (fun _ => ()) = .error (.notCallable "int") := by
  have hendings : unnamedClass.found.all (·.ending.isOk) = true := by decide +kernel
  have hone : unnamedClass.audited.length = 1 := by decide +kernel
  have hresult : (scan.result unnamedClass).map (fun _ => ()) =
      .error (.notCallable "int") := by decide +kernel
  refine ⟨fun x hx => ?_, ?_, hresult⟩
  · have hx := List.all_eq_true.mp hendings x hx
    cases hending : x.ending with
    | ok cs => exact ⟨cs, rfl⟩
    | error f =>
        rw [hending] at hx
        cases hx
  · obtain ⟨c, hc⟩ := List.length_eq_one_iff.mp hone
    intro d hd e he name _ _
    rw [hc] at hd he
    rw [List.mem_singleton.mp hd, List.mem_singleton.mp he]

end Session

end AuditAspects
