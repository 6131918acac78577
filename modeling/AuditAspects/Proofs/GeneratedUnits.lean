import AuditAspects.Project.Generation
import AuditAspects.Proofs.ContributionOutcome
import AuditAspects.Proofs.ScanOutcome

/-!
# The units of a project

What generation renders for an entity depends on the settings, on what is attached to the
entity and on the entity itself, but not on the log (`contribution_withLog`).  So the units
of a project are rendered as if each were rendered alone (`result_renderAll`), and the first
entity that cannot be rendered is the one to blame.
-/

namespace AuditAspects

/-! ## Steps that do not read the log -/

/-- How a step ends does not depend on the records before it. -/
def Logged.Blind {α : Type} (x : Logged α) : Prop :=
  ∀ log log' : List Record, x.result log = x.result log'

section Blind

open Logged

variable {α β : Type}

theorem blind_pure (a : α) : Blind (pure a) := fun _ _ => rfl

theorem blind_throw (f : Fault) : Blind (throw f : Logged α) := fun _ _ => rfl

theorem blind_note (level : Level) (text : String) : Blind (note level text) := fun _ _ => rfl

theorem blind_ofExcept (e : Except Fault α) : Blind (Step.ofExcept e) := by
  intro log log'
  rw [Step.result_ofExcept, Step.result_ofExcept]

/-- A sequence of steps that do not read the log does not read it. -/
theorem Logged.Blind.bind {x : Logged α} {k : α → Logged β} (hx : Blind x)
    (hk : ∀ a, Blind (k a)) : Blind (x >>= k) := by
  intro log log'
  rw [Step.result_bind, Step.result_bind, hx log log']
  cases x.result log' with
  | ok a => exact hk a _ _
  | error f => rfl

/-- Whether a getter is made does not depend on the log. -/
theorem blind_getterFor (field : Field) (target : Target) : Blind (getterFor field target) := by
  refine (blind_ofExcept _).bind fun name => (blind_ofExcept _).bind fun declared => ?_
  split
  · exact (blind_note _ _).bind fun _ => blind_pure _
  · split
    · exact blind_pure _
    · exact blind_pure _

theorem blind_produceMembers (build : FieldSpec → Except Fault Field) (target : Target)
    (specs : List FieldSpec) : Blind (produceMembers build target specs) := by
  induction specs with
  | nil => exact blind_pure _
  | cons spec specs ih =>
      refine (blind_ofExcept _).bind fun field => ?_
      split
      · exact (blind_throw _).bind fun _ =>
          (blind_getterFor _ _).bind fun _ => ih.bind fun _ => blind_pure _
      · exact (blind_getterFor _ _).bind fun _ => ih.bind fun _ => blind_pure _

theorem blind_produce (target : Offered Target) (config : Offered Config) :
    Blind (produce target config) :=
  (blind_ofExcept _).bind fun _ => (blind_produceMembers _ _ _).bind fun _ => blind_pure _

theorem blind_forType (type : TypeName) (target : Offered Target) (config : Offered Config)
    (path : LogicalPath) : Blind (Contribution.forType type target config path) :=
  (blind_ofExcept _).bind fun _ => (blind_produce _ _).bind fun _ =>
    (blind_ofExcept _).bind fun _ => (blind_note _ _).bind fun _ => blind_pure _

end Blind

namespace Session

open Step

/-! ## One entity -/

/-- A session with another log. -/
def withLog (s : Session) (log : List Record) : Session := { s with log := log }

/-- The contribution of an entity does not depend on the log. -/
theorem contribution_withLog (s : Session) (log : List Record) (c : Contract) :
    (contribution c).result (s.withLog log) = (contribution c).result s := by
  have hpath : (s.withLog log).logicalPath c = s.logicalPath c := rfl
  simp only [contribution, result_bind, result_get, after_get, result_ofExcept, after_ofExcept,
    hpath, result_onLog]
  cases s.logicalPath c with
  | error f => rfl
  | ok path =>
      cases c.type with
      | error f => rfl
      | ok type => exact blind_forType _ _ _ _ _ _

theorem after_contribution (s : Session) (c : Contract) :
    ∃ log, (contribution c).after s = s.withLog log := by
  simp only [contribution, after_bind, result_get, after_get, result_ofExcept, after_ofExcept,
    after_onLog]
  cases s.logicalPath c with
  | error f => exact ⟨s.log, rfl⟩
  | ok path =>
      cases c.type with
      | error f => exact ⟨s.log, rfl⟩
      | ok type => exact ⟨_, rfl⟩

/-- A contribution that is made is that of a bundle, for the type of its entity. -/
theorem contribution_eq_ok {s : Session} {c : Contract} {k : Contribution}
    (h : (contribution c).result s = .ok k) :
    ∃ path type governor columns declared, s.logicalPath c = .ok path ∧ c.type = .ok type ∧
      Identifier.type (.text (Identifier.create type path)) = .ok governor ∧
      (governor = type ↔ '?' ∉ path.name.toList) ∧
      k = .ofBundle (Identifier.create type path) type.aspect governor
        (auditBundle columns declared) := by
  obtain ⟨t, ht, h⟩ := bind_eq_ok h
  rw [result_get, Except.ok.injEq] at ht
  rw [after_get, ← ht] at h
  obtain ⟨path, hpath, h⟩ := bind_eq_ok h
  obtain ⟨type, htype, h⟩ := bind_eq_ok h
  rw [result_ofExcept] at hpath htype
  rw [result_onLog] at h
  by_cases hreadable : path.Unreadable
  · rw [Contribution.forType_of_unreadable hreadable] at h
    cases h
  · obtain ⟨governor, hgovernor, hsame⟩ := Identifier.exists_type_create type hreadable
    rw [Contribution.result_forType_of_governor hgovernor] at h
    split at h
    · cases h
    next b hb =>
      obtain ⟨columns, declared, rfl⟩ := exists_auditBundle_of_produce hb
      exact ⟨path, type, governor, columns, declared, hpath, htype, hgovernor, hsame,
        (Except.ok.inj h).symm⟩

/-- The path and the text of the unit of an entity. -/
def unitOf (s : Session) (c : Contract) : Except Fault (String × String) :=
  match (contribution c).result s with
  | .ok k => (s.unitPath k.aspect).map fun path => (path, k.unit.render)
  | .error f => .error f

/-- A unit has the path and the text that the contribution of its entity gives. -/
theorem unitOf_eq_ok {s : Session} {c : Contract} {u : String × String} (h : s.unitOf c = .ok u) :
    ∃ k, (contribution c).result s = .ok k ∧ s.unitPath k.aspect = .ok u.1 ∧
      u.2 = k.unit.render := by
  rw [unitOf] at h
  cases hk : (contribution c).result s with
  | error f =>
      rw [hk] at h
      cases h
  | ok k =>
      simp only [hk] at h
      cases hpath : s.unitPath k.aspect with
      | error f =>
          rw [hpath] at h
          cases h
      | ok path =>
          rw [hpath] at h
          obtain ⟨path', text⟩ := u
          obtain ⟨rfl, htext⟩ := Prod.mk.inj (Except.ok.inj h)
          exact ⟨k, rfl, hpath, htext.symm⟩

theorem unitPath_of_text {s : Session} {sourceRoot : String}
    (h : s.setting .sourceRoot = .text sourceRoot) (aspect : TypeName) :
    s.unitPath aspect = .ok (unitPathUnder sourceRoot aspect) := by
  rw [unitPath, h]

theorem unitOf_of_contribution {s : Session} {c : Contract} {k : Contribution}
    (h : (contribution c).result s = .ok k) {sourceRoot : String}
    (hsources : s.setting .sourceRoot = .text sourceRoot) :
    s.unitOf c = .ok (unitPathUnder sourceRoot k.aspect, k.unit.render) := by
  rw [unitOf, h]
  simp only [unitPath_of_text hsources]
  rfl

theorem unitOf_withLog (s : Session) (log : List Record) (c : Contract) :
    (s.withLog log).unitOf c = s.unitOf c := by
  rw [unitOf, unitOf, contribution_withLog]
  rfl

theorem result_renderEntity (s : Session) (name : String) (c : Contract) :
    (renderEntity name c).result s = s.unitOf c := by
  obtain ⟨log, hlog⟩ := after_contribution s c
  rw [renderEntity, unitOf, result_bind, hlog]
  cases (contribution c).result s with
  | error f => rfl
  | ok k =>
      have hpath : (s.withLog log).unitPath k.aspect = s.unitPath k.aspect := rfl
      simp only [result_bind, result_get, after_get, result_ofExcept, after_ofExcept, hpath]
      cases s.unitPath k.aspect <;> rfl

theorem after_renderEntity (s : Session) (name : String) (c : Contract) :
    ∃ log, (renderEntity name c).after s = s.withLog log := by
  obtain ⟨log, hlog⟩ := after_contribution s c
  rw [renderEntity, after_bind, hlog]
  cases (contribution c).result s with
  | error f => exact ⟨log, rfl⟩
  | ok k =>
      simp only [after_bind, result_get, after_get, result_ofExcept, after_ofExcept]
      cases (s.withLog log).unitPath k.aspect with
      | error f => exact ⟨log, rfl⟩
      | ok path => exact ⟨_, rfl⟩

/-! ## All entities -/

/-- The paths and texts of the units of several entities. -/
def unitsOf (s : Session) : List (String × Contract) → Except Fault Rendered
  | [] => .ok []
  | e :: entities =>
      match s.unitOf e.2 with
      | .ok u => (unitsOf s entities).map (u :: ·)
      | .error f => .error f

/-- Units put to those made before. -/
def putUnits (made units : Rendered) : Rendered :=
  units.foldl (fun made u => Entries.put u.1 u.2 made) made

theorem unitsOf_withLog (s : Session) (log : List Record) (entities : List (String × Contract)) :
    (s.withLog log).unitsOf entities = s.unitsOf entities := by
  induction entities with
  | nil => rfl
  | cons e entities ih => rw [unitsOf, unitsOf, unitOf_withLog, ih]

/-- Units are rendered as if each were rendered alone. -/
theorem result_renderAll (s : Session) (entities : List (String × Contract)) (made : Rendered) :
    (renderAll entities made).result s = (s.unitsOf entities).map (putUnits made) := by
  induction entities generalizing s made with
  | nil => rfl
  | cons e entities ih =>
      obtain ⟨name, c⟩ := e
      obtain ⟨log, hlog⟩ := after_renderEntity s name c
      rw [renderAll, result_bind, result_renderEntity, hlog, unitsOf]
      cases s.unitOf c with
      | error f => rfl
      | ok u =>
          simp only [ih, unitsOf_withLog]
          cases s.unitsOf entities <;> rfl

theorem after_renderAll (s : Session) (entities : List (String × Contract)) (made : Rendered) :
    ∃ log, (renderAll entities made).after s = s.withLog log := by
  induction entities generalizing s made with
  | nil => exact ⟨s.log, rfl⟩
  | cons e entities ih =>
      obtain ⟨name, c⟩ := e
      obtain ⟨log, hlog⟩ := after_renderEntity s name c
      rw [renderAll, after_bind, hlog]
      cases (renderEntity name c).result s with
      | error f => exact ⟨log, rfl⟩
      | ok u =>
          obtain ⟨log', hlog'⟩ := ih (s.withLog log) (Entries.put u.1 u.2 made)
          exact ⟨log', hlog'⟩

/-- The first entity that cannot be rendered is to blame. -/
theorem unitsOf_eq_error {s : Session} {entities : List (String × Contract)} {f : Fault}
    (h : s.unitsOf entities = .error f) :
    ∃ before e after units, entities = before ++ e :: after ∧ s.unitsOf before = .ok units ∧
      s.unitOf e.2 = .error f := by
  induction entities with
  | nil => cases h
  | cons e entities ih =>
      rw [unitsOf] at h
      cases he : s.unitOf e.2 with
      | error g =>
          rw [he] at h
          cases h
          exact ⟨[], e, entities, [], rfl, rfl, he⟩
      | ok u =>
          rw [he] at h
          cases hrest : s.unitsOf entities with
          | ok units =>
              rw [hrest] at h
              cases h
          | error g =>
              rw [hrest] at h
              cases h
              obtain ⟨before, e', after, units, rfl, hbefore, he'⟩ := ih hrest
              refine ⟨e :: before, e', after, u :: units, rfl, ?_, he'⟩
              rw [unitsOf, he, hbefore]
              rfl

theorem forall₂_unitOf {s : Session} {entities : List (String × Contract)} {units : Rendered}
    (h : s.unitsOf entities = .ok units) :
    List.Forall₂ (fun e u => s.unitOf e.2 = .ok u) entities units := by
  induction entities generalizing units with
  | nil =>
      cases h
      exact .nil
  | cons e entities ih =>
      rw [unitsOf] at h
      cases he : s.unitOf e.2 with
      | error g =>
          rw [he] at h
          cases h
      | ok u =>
          rw [he] at h
          cases hrest : s.unitsOf entities with
          | error g =>
              rw [hrest] at h
              cases h
          | ok us =>
              rw [hrest] at h
              cases h
              exact .cons he (ih hrest)

/-- Units with paths of their own are put one behind the other. -/
theorem putUnits_of_nodup {made units : Rendered} (h : ((made ++ units).map Prod.fst).Nodup) :
    putUnits made units = made ++ units := by
  induction units generalizing made with
  | nil => exact (List.append_nil made).symm
  | cons u units ih =>
      have hnew : u.1 ∉ made.map Prod.fst := fun hmem => by
        rw [List.map_append, List.nodup_append] at h
        exact h.2.2 u.1 hmem u.1 (List.mem_map_of_mem List.mem_cons_self) rfl
      have hsplit : made ++ u :: units = (made ++ [u]) ++ units := by
        rw [List.append_assoc, List.singleton_append]
      rw [putUnits, List.foldl_cons, Entries.put_of_not_mem hnew, hsplit]
      rw [hsplit] at h
      exact ih h

theorem mem_putUnits {made units : Rendered} {u : String × String} (h : u ∈ putUnits made units) :
    u ∈ made ∨ u ∈ units := by
  induction units generalizing made with
  | nil => exact .inl h
  | cons v units ih =>
      rcases ih h with hu | hu
      · rcases Entries.mem_put hu with rfl | hu
        · exact .inr List.mem_cons_self
        · exact .inl hu
      · exact .inr (List.mem_cons_of_mem _ hu)

theorem mem_unitsOf_iff {s : Session} {entities : List (String × Contract)} {units : Rendered}
    (h : s.unitsOf entities = .ok units) {u : String × String} :
    u ∈ units ↔ ∃ e ∈ entities, s.unitOf e.2 = .ok u := by
  have hunits := forall₂_unitOf h
  clear h
  induction hunits with
  | nil => simp
  | cons hd _ ih => simp [ih, hd, eq_comm]

/-- If several entities can be rendered, each of them can. -/
theorem exists_unitOf {s : Session} {entities : List (String × Contract)} {units : Rendered}
    (h : s.unitsOf entities = .ok units) : ∀ e ∈ entities, ∃ u, s.unitOf e.2 = .ok u := by
  have hunits := forall₂_unitOf h
  clear h
  induction hunits with
  | nil => exact fun e he => absurd he List.not_mem_nil
  | cons hd _ ih => exact List.forall_mem_cons.mpr ⟨⟨_, hd⟩, ih⟩

theorem lookup_putUnits_of_not_mem {made units : Rendered} {path : String}
    (h : ∀ u ∈ units, u.1 ≠ path) : (putUnits made units).lookup path = made.lookup path := by
  induction units generalizing made with
  | nil => rfl
  | cons v units ih =>
      obtain ⟨hv, hunits⟩ := List.forall_mem_cons.mp h
      rw [putUnits, List.foldl_cons]
      refine (ih hunits).trans ?_
      rw [Entries.lookup_put, if_neg (Ne.symm hv)]

/-- A path that only one text is rendered for has that text. -/
theorem lookup_putUnits {made units : Rendered} {path text : String} (hmem : (path, text) ∈ units)
    (honly : ∀ u ∈ units, u.1 = path → u.2 = text) :
    (putUnits made units).lookup path = some text := by
  induction units generalizing made with
  | nil => exact absurd hmem List.not_mem_nil
  | cons v units ih =>
      obtain ⟨hv, hunits⟩ := List.forall_mem_cons.mp honly
      rw [putUnits, List.foldl_cons]
      -- The last unit of the path counts, and all units of the path are the same.
      by_cases hlater : ∃ u ∈ units, u.1 = path
      · obtain ⟨u, hu, rfl⟩ := hlater
        have htext : u.2 = text := hunits u hu rfl
        exact ih (htext ▸ hu) hunits
      · have hnone : ∀ u ∈ units, u.1 ≠ path := fun u hu heq => hlater ⟨u, hu, heq⟩
        refine (lookup_putUnits_of_not_mem hnone).trans ?_
        rcases List.mem_cons.mp hmem with rfl | hmem
        · rw [Entries.lookup_put, if_pos rfl]
        · exact absurd rfl (hnone _ hmem)

/-! ## Generation -/

/-- What generation starts with: the settings, if they are not there yet, and the scan. -/
def opening : Step Session (List (String × Contract)) := do
  if (← get).settings.isNone then
    let _ ← loadSettings
  scan

/-- Generation opens the project and renders its entities in the order of their names. -/
theorem generate_eq :
    generate = opening >>= fun entities => renderAll (sortEntities entities) [] := by
  rw [generate, opening, bind_assoc]
  refine congrArg _ (funext fun s => ?_)
  cases s.settings.isNone with
  | true => simp
  | false => simp

/-- Loading the settings changes these and the log, and keeps the code of their module. -/
theorem after_loadSettings (s : Session) :
    ∃ settings log loaded, (∀ l ∈ loaded, s.IsModule l) ∧
      loadSettings.after s =
        { s with settings := settings, log := log, kept := s.kept ++ s.keptOf loaded } := by
  rw [loadSettings, after_bind_of_ok _ (result_get s), after_get]
  cases s.settingsModule? with
  | none =>
      refine ⟨none, s.log ++ [⟨.info, "No settings found at " ++ s.settingsFile.text ++
        ", using defaults"⟩], [], fun l hl => absurd hl List.not_mem_nil, ?_⟩
      rw [keptOf_nil, List.append_nil]
      rfl
  | some m =>
      have hloaded : ∀ l ∈ [s.settingsFile], s.IsModule l := fun l hl =>
        .inl (List.mem_singleton.mp hl)
      simp only [after_bind, result_keepCode, after_keepCode, result_ofExcept, after_ofExcept]
      cases readSettings s.environment m with
      | error f => exact ⟨s.settings, s.log, [s.settingsFile], hloaded, rfl⟩
      | ok bound => exact ⟨some bound, s.log, [s.settingsFile], hloaded, rfl⟩

/-- A scan changes the registry and the log, and keeps the code of modules. -/
theorem after_scan (s : Session) :
    ∃ store log loaded, (∀ l ∈ loaded, s.IsModule l) ∧
      scan.after s = { s with store := store, log := log, kept := s.kept ++ s.keptOf loaded } := by
  obtain ⟨log, loaded, hloaded, -, hafter⟩ := s.scan_ends
  refine ⟨(scan.after s).store, log, loaded, hloaded, ?_⟩
  rw [hafter]
  split <;> rfl

/-- Opening a project changes the settings, the registry and the log, and keeps the code of
modules. -/
theorem after_opening (s : Session) :
    ∃ settings store log loaded, (∀ l ∈ loaded, s.IsModule l) ∧
      opening.after s = { s with
        store := store, settings := settings, log := log, kept := s.kept ++ s.keptOf loaded } := by
  rw [opening, after_bind_of_ok _ (result_get s), after_get]
  cases s.settings.isNone with
  | false =>
      obtain ⟨store, log, loaded, hloaded, h⟩ := after_scan s
      exact ⟨s.settings, store, log, loaded, hloaded, h⟩
  | true =>
      obtain ⟨settings, log, loaded, hloaded, hload⟩ := after_loadSettings s
      rw [if_pos rfl, after_bind, hload]
      cases loadSettings.result s with
      | error f => exact ⟨settings, s.store, log, loaded, hloaded, rfl⟩
      | ok _ =>
          obtain ⟨store, log, scanned, hscanned, h⟩ := after_scan
            { s with settings := settings, log := log, kept := s.kept ++ s.keptOf loaded }
          refine ⟨settings, store, log, loaded ++ scanned, ?_, h.trans ?_⟩
          · intro l hl
            exact (List.mem_append.mp hl).elim (hloaded l) (hscanned l)
          · rw [keptOf_append, ← List.append_assoc]
            rfl

/-- A project opens by its settings, if they are not there yet, and by what is found in its
entity modules. -/
theorem result_opening (s : Session) :
    opening.result s =
      match if s.settings.isNone then loadSettings.result s else .ok true with
      | .error f => .error f
      | .ok _ => Roll.enterFindings [] s.found := by
  rw [opening, result_bind_of_ok _ (result_get s), after_get]
  cases s.settings.isNone with
  | false => exact s.scan_eq.1
  | true =>
      obtain ⟨settings, log, loaded, -, hload⟩ := after_loadSettings s
      rw [if_pos rfl, if_pos rfl, result_bind, hload]
      cases loadSettings.result s with
      | error f => rfl
      | ok _ => exact (scan_eq _).1

/-- A project that opens gives what its entity modules hold. -/
theorem opening_eq_ok {s : Session} {es : List (String × Contract)}
    (h : opening.result s = .ok es) : Roll.enterFindings [] s.found = .ok es := by
  rw [result_opening] at h
  split at h
  · cases h
  · exact h

/-- What an opened project gives records the audited classes that were found. -/
theorem records_opening {s : Session} {es : List (String × Contract)}
    (h : opening.result s = .ok es) : Roll.Records es s.audited :=
  Roll.records_nil.enterAll (Roll.enterFindings_eq_ok_iff.mp (opening_eq_ok h)).2

/-- No two entities of an opened project have one name. -/
theorem distinct_opening {s : Session} {es : List (String × Contract)}
    (h : opening.result s = .ok es) : Roll.Distinct es := (records_opening h).distinct

/-- Generation renders what the scan gives, in the order of the names. -/
theorem result_generate (s : Session) :
    generate.result s =
      match opening.result s with
      | .ok es => ((opening.after s).unitsOf (sortEntities es)).map (putUnits [])
      | .error f => .error f := by
  rw [generate_eq, result_bind]
  cases opening.result s with
  | ok es => exact result_renderAll _ _ _
  | error f => rfl

/-- Generation changes no more than opening the project does. -/
theorem after_generate (s : Session) :
    ∃ settings store log loaded, (∀ l ∈ loaded, s.IsModule l) ∧
      generate.after s = { s with
        store := store, settings := settings, log := log, kept := s.kept ++ s.keptOf loaded } := by
  obtain ⟨settings, store, log, loaded, hloaded, hopening⟩ := after_opening s
  rw [generate_eq, after_bind, hopening]
  cases opening.result s with
  | error f => exact ⟨settings, store, log, loaded, hloaded, rfl⟩
  | ok es =>
      obtain ⟨log', h⟩ := after_renderAll { s with
        store := store, settings := settings, log := log, kept := s.kept ++ s.keptOf loaded }
        (sortEntities es) []
      exact ⟨settings, store, log', loaded, hloaded, h⟩

/-- A generation that goes through has opened the project and put the units of its entities. -/
theorem generate_eq_ok {s : Session} {rendered : Rendered} (h : generate.result s = .ok rendered) :
    ∃ es units, opening.result s = .ok es ∧
      (opening.after s).unitsOf (sortEntities es) = .ok units ∧ rendered = putUnits [] units := by
  rw [result_generate] at h
  cases hopening : opening.result s with
  | error f =>
      rw [hopening] at h
      cases h
  | ok es =>
      rw [hopening] at h
      cases hunits : (opening.after s).unitsOf (sortEntities es) with
      | error f =>
          simp only [hunits] at h
          cases h
      | ok units =>
          simp only [hunits] at h
          cases h
          exact ⟨es, units, rfl, hunits, rfl⟩

/-- Entities with names of their own are sorted strictly. -/
theorem sortEntities_pairwise {es : List (String × Contract)} (h : Roll.Distinct es) :
    (sortEntities es).Pairwise fun a b => a.1 < b.1 :=
  sortBy_key_pairwise_lt Prod.fst h

end Session

end AuditAspects
