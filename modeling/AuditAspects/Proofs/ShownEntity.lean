import AuditAspects.Command
import AuditAspects.Proofs.GeneratedUnits

/-!
# Showing one entity

`show` opens a project as generation does, picks the one entity that a text names, and
prints the unit that generation renders for it, whether or not other entities can be
rendered (`showOutcome`).  A text names an entity by the name of its type or by that of its
class.  So the name of a type picks its own entity or none: it is ambiguous exactly if a
class of another type has just that name, and then there is no way to show the entity by
its full name (`show_typeName`).
-/

namespace AuditAspects

namespace Command

open Session Step

/-! ## Picking an entity -/

/-- A text names an entity, by the name of the type or of the class. -/
def Names (entity : String) (e : String × Contract) : Prop := e.1 = entity ∨ e.2.name = entity

/-- A text names just one of several entities. -/
structure NamesOnly (entity : String) (es : List (String × Contract)) (e : String × Contract) :
    Prop where
  mem : e ∈ es
  names : Names entity e
  only : ∀ d ∈ es, Names entity d → d = e

theorem mem_matching {entity : String} {es : List (String × Contract)} {e : String × Contract} :
    e ∈ matching entity es ↔ e ∈ es ∧ Names entity e := by
  simp [matching, Names]

/-- Only one entity matches exactly if the text names it and no other. -/
theorem matching_eq_singleton_iff {entity : String} {es : List (String × Contract)}
    (hes : Roll.Distinct es) {e : String × Contract} :
    matching entity es = [e] ↔ NamesOnly entity es e := by
  constructor
  · intro h
    have hone : ∀ d, d ∈ es ∧ Names entity d ↔ d = e := fun d => by
      rw [← mem_matching, h, List.mem_singleton]
    obtain ⟨hmem, hnames⟩ := (hone e).mpr rfl
    exact ⟨hmem, hnames, fun d hd hdnames => (hone d).mp ⟨hd, hdnames⟩⟩
  · intro h
    have hnodup : (matching entity es).Nodup := (List.Nodup.of_map _ hes).filter _
    have hone : ∀ d, d ∈ matching entity es ↔ d ∈ [e] := by
      intro d
      rw [mem_matching, List.mem_singleton]
      constructor
      · rintro ⟨hd, hdnames⟩
        exact h.only d hd hdnames
      · rintro rfl
        exact ⟨h.mem, h.names⟩
    exact List.perm_singleton.mp
      ((List.perm_ext_iff_of_nodup hnodup (List.nodup_singleton e)).mpr @hone)

/-! ## The command -/

/-- The report of a search for the unit of an entity. -/
def unitReport : Except Fault (Except String String) → Report
  | .ok (.ok source) => { out := source }
  | .ok (.error text) => .failure ("[ERROR] " ++ text)
  | .error f => .ofFault f ("[ERROR] " ++ f.message)

/-- The session that a command on a project starts with. -/
def sessionOn (w : Workspace) (project : String) : Session := .start w (.ofText project)

/-- The report of showing an entity is that of the search for its unit. -/
theorem report_show (entity project : String) (w : Workspace) :
    (run (.show entity project) w).2 = unitReport ((findUnit entity).result (sessionOn w project)) := by
  rw [run, runOn, inProject, runShow, Step.result, sessionOn]
  cases (findUnit entity).run (.start w (.ofText project)) with
  | error f t => rfl
  | ok answer t =>
      cases answer with
      | error text => rfl
      | ok source =>
          simp only [printed, Console.fault?_lenient]
          rfl

/-- A search opens the project and looks at what the text names. -/
theorem result_findUnit (entity : String) {s : Session} (hs : s.settings = none) :
    (findUnit entity).result s =
      match opening.result s with
      | .error f => .error f
      | .ok es =>
          match matching entity es with
          | [] => .ok (.error ("No audited entity named '" ++ entity ++ "'"))
          | [e] => ((contribution e.2).result (opening.after s)).map fun k => .ok k.unit.render
          | _ => .ok (.error ("'" ++ entity ++ "' is ambiguous; use the fully qualified name")) := by
  have hresult : opening.result s = (loadSettings >>= fun _ => scan).result s := by
    rw [opening, result_bind_of_ok _ (result_get s), after_get, hs]
    rfl
  have hafter : opening.after s = (loadSettings >>= fun _ => scan).after s := by
    rw [opening, after_bind_of_ok _ (result_get s), after_get, hs]
    rfl
  rw [hresult, hafter, findUnit, ← bind_assoc, result_bind]
  cases (loadSettings >>= fun _ => scan).result s with
  | error f => rfl
  | ok es =>
      cases hpicked : matching entity es with
      | nil =>
          simp only [hpicked]
          rfl
      | cons e rest =>
          cases rest with
          | cons d rest =>
              simp only [hpicked]
              rfl
          | nil =>
              simp only [hpicked, result_bind]
              cases (contribution e.2).result ((loadSettings >>= fun _ => scan).after s) <;> rfl

/-- A project opens, a text names just one of its entities, and that one has a
contribution. -/
structure Picks (s : Session) (entity : String) (es : List (String × Contract))
    (e : String × Contract) (k : Contribution) : Prop where
  opened : opening.result s = .ok es
  only : NamesOnly entity es e
  built : (contribution e.2).result (opening.after s) = .ok k

theorem ofFault_silent (f : Fault) (line : String) :
    (Report.ofFault f line).exitCode = 1 ∧ (Report.ofFault f line).out = "" := by
  rw [Report.ofFault]
  split <;> exact ⟨rfl, rfl⟩

section Show

variable {entity project : String} {w : Workspace}

/-- A search finds the unit of an entity that is picked. -/
theorem result_findUnit_of_picks {s : Session} (hs : s.settings = none)
    {es : List (String × Contract)} {e : String × Contract} {k : Contribution}
    (h : Picks s entity es e k) : (findUnit entity).result s = .ok (.ok k.unit.render) := by
  have hpicked := (matching_eq_singleton_iff (distinct_opening h.opened)).mpr h.only
  rw [result_findUnit entity hs, h.opened]
  simp only [hpicked, h.built]
  rfl

/-- A unit is found only of an entity that is picked. -/
theorem exists_picks {s : Session} (hs : s.settings = none) {source : String}
    (h : (findUnit entity).result s = .ok (.ok source)) : ∃ es e k, Picks s entity es e k := by
  rw [result_findUnit entity hs] at h
  cases hopening : opening.result s with
  | error f =>
      rw [hopening] at h
      cases h
  | ok es =>
      simp only [hopening] at h
      cases hpicked : matching entity es with
      | nil =>
          simp only [hpicked] at h
          cases h
      | cons e rest =>
          cases rest with
          | cons d rest =>
              simp only [hpicked] at h
              cases h
          | nil =>
              simp only [hpicked] at h
              cases hbuilt : (contribution e.2).result (opening.after s) with
              | error f =>
                  rw [hbuilt] at h
                  cases h
              | ok k =>
                  exact ⟨es, e, k, hopening,
                    (matching_eq_singleton_iff (distinct_opening hopening)).mp hpicked, hbuilt⟩

theorem report_of_picks {es : List (String × Contract)} {e : String × Contract} {k : Contribution}
    (h : Picks (sessionOn w project) entity es e k) :
    (run (.show entity project) w).2 = { out := k.unit.render } := by
  rw [report_show, result_findUnit_of_picks rfl h]
  rfl

theorem report_of_not_picks (h : ¬∃ es e k, Picks (sessionOn w project) entity es e k) :
    (run (.show entity project) w).2.exitCode = 1 ∧ (run (.show entity project) w).2.out = "" := by
  rw [report_show]
  cases hfound : (findUnit entity).result (sessionOn w project) with
  | error f => exact ofFault_silent f _
  | ok answer =>
      cases answer with
      | error text => exact ⟨rfl, rfl⟩
      | ok source => exact absurd (exists_picks rfl hfound) h

/-- How showing an entity ends, and how this agrees with generation, on an output that takes
every text. -/
structure ShowOutcome (entity project : String) (w : Workspace) : Prop where
  /-- It succeeds exactly if the project opens, and the text names just one entity, which has
  a contribution. -/
  exits_iff : (run (.show entity project) w).2.exitCode = 0 ↔
    ∃ es e k, Picks (sessionOn w project) entity es e k
  /-- Then it prints the unit of the contribution, and this is what generation renders for the
  entity, whatever entities come before it and whether or not they can be rendered. -/
  renders : ∀ es e k, Picks (sessionOn w project) entity es e k →
    (run (.show entity project) w).2 = { out := k.unit.render } ∧
      ∀ before after made, sortEntities es = before ++ e :: after →
        (renderEntity e.1 e.2).result
            ((renderAll before made).after (opening.after (sessionOn w project))) =
          ((opening.after (sessionOn w project)).unitPath k.aspect).map fun path =>
            (path, (run (.show entity project) w).2.out)
  /-- A generation that goes through gives this text for the path of the entity, unless
  another entity has the same path. -/
  generated : ∀ es e k rendered, Picks (sessionOn w project) entity es e k →
    Session.generate.result (sessionOn w project) = .ok rendered →
    ∃ path, (opening.after (sessionOn w project)).unitPath k.aspect = .ok path ∧
      ((∀ d ∈ es, ∀ u, (opening.after (sessionOn w project)).unitOf d.2 = .ok u → u.1 = path →
          d = e) →
        rendered.lookup path = some (run (.show entity project) w).2.out)
  /-- In every other case it says nothing on standard output. -/
  silent : (¬∃ es e k, Picks (sessionOn w project) entity es e k) →
    (run (.show entity project) w).2.exitCode = 1 ∧ (run (.show entity project) w).2.out = ""

theorem showOutcome (entity project : String) (w : Workspace) : ShowOutcome entity project w where
  exits_iff := by
    constructor
    · intro hzero
      by_contra hnone
      rw [(report_of_not_picks hnone).1] at hzero
      cases hzero
    · rintro ⟨es, e, k, h⟩
      rw [report_of_picks h]
  renders := by
    intro es e k h
    refine ⟨report_of_picks h, fun before after made _ => ?_⟩
    obtain ⟨log, hlog⟩ := after_renderAll (opening.after (sessionOn w project)) before made
    rw [report_of_picks h, hlog, result_renderEntity, unitOf_withLog, unitOf, h.built]
  generated := by
    intro es e k rendered h hgenerate
    obtain ⟨es', units, hopened, hunits, rfl⟩ := generate_eq_ok hgenerate
    rw [h.opened] at hopened
    cases hopened
    have hsorted : ∀ d, d ∈ sortEntities es ↔ d ∈ es := fun d => mem_sortBy
    obtain ⟨⟨path, text⟩, hunit⟩ := exists_unitOf hunits e ((hsorted e).mpr h.only.mem)
    have hparts := hunit
    rw [unitOf, h.built] at hparts
    cases hpath : (opening.after (sessionOn w project)).unitPath k.aspect with
    | error f =>
        simp only [hpath] at hparts
        cases hparts
    | ok path' =>
        simp only [hpath] at hparts
        cases hparts
        refine ⟨path, rfl, fun honly => ?_⟩
        have hout : (run (.show entity project) w).2.out = k.unit.render := by
          rw [report_of_picks h]
        rw [hout]
        have hmem : (path, k.unit.render) ∈ units :=
          (mem_unitsOf_iff hunits).mpr ⟨e, (hsorted e).mpr h.only.mem, hunit⟩
        refine lookup_putUnits hmem fun u hu hupath => ?_
        obtain ⟨d, hd, hdunit⟩ := (mem_unitsOf_iff hunits).mp hu
        have hde : d = e := honly d ((hsorted d).mp hd) u hdunit hupath
        rw [hde, hunit] at hdunit
        rw [← Except.ok.inj hdunit]
  silent := report_of_not_picks

/-! ## Showing an entity by its full name -/

theorem namesOnly_of_type {es : List (String × Contract)} (hes : Roll.Distinct es) {name : String}
    {c : Contract} (hmem : (name, c) ∈ es) (h : ∀ e ∈ es, e.2.name = name → e.1 = name) :
    NamesOnly name es (name, c) := by
  refine ⟨hmem, .inl rfl, fun e he hnames => ?_⟩
  have htype : e.1 = name := hnames.elim id (h e he)
  have hheld : es.lookup name = some c := hes.lookup_eq_some_iff.mpr hmem
  have hother : es.lookup name = some e.2 := hes.lookup_eq_some_iff.mpr (htype ▸ he)
  rw [hheld, Option.some.injEq] at hother
  rw [hother, ← htype]

/-- The name of a type shows its own entity, unless it is also the name of another entity's
class; then it is ambiguous. -/
theorem show_typeName {es : List (String × Contract)} {name : String} {c : Contract}
    {k : Contribution} (hopened : opening.result (sessionOn w project) = .ok es)
    (hmem : (name, c) ∈ es)
    (hbuilt : (contribution c).result (opening.after (sessionOn w project)) = .ok k) :
    ((run (.show name project) w).2.exitCode = 0 ↔ ∀ e ∈ es, e.2.name = name → e.1 = name) ∧
      ((∀ e ∈ es, e.2.name = name → e.1 = name) →
        (run (.show name project) w).2 = { out := k.unit.render }) ∧
      ((∃ e ∈ es, e.2.name = name ∧ e.1 ≠ name) →
        (run (.show name project) w).2 =
          .failure ("[ERROR] '" ++ name ++ "' is ambiguous; use the fully qualified name")) := by
  have hshown : (∀ e ∈ es, e.2.name = name → e.1 = name) →
      (run (.show name project) w).2 = { out := k.unit.render } := fun h =>
    report_of_picks ⟨hopened, namesOnly_of_type (distinct_opening hopened) hmem h, hbuilt⟩
  have hambiguous : (∃ e ∈ es, e.2.name = name ∧ e.1 ≠ name) →
      (run (.show name project) w).2 =
        .failure ("[ERROR] '" ++ name ++ "' is ambiguous; use the fully qualified name") := by
    rintro ⟨e, he, hclass, htype⟩
    have hfirst : (name, c) ∈ matching name es := mem_matching.mpr ⟨hmem, .inl rfl⟩
    have hsecond : e ∈ matching name es := mem_matching.mpr ⟨he, .inr hclass⟩
    rw [report_show, result_findUnit name rfl, hopened]
    cases hpicked : matching name es with
    | nil =>
        rw [hpicked] at hfirst
        exact absurd hfirst List.not_mem_nil
    | cons d rest =>
        cases rest with
        | nil =>
            rw [hpicked, List.mem_singleton] at hfirst hsecond
            rw [hsecond, ← hfirst] at htype
            exact absurd rfl htype
        | cons d' rest =>
            simp only [hpicked]
            rfl
  refine ⟨⟨fun hzero => ?_, fun h => by rw [hshown h]⟩, hshown, hambiguous⟩
  by_contra hother
  have hexists : ∃ e ∈ es, e.2.name = name ∧ e.1 ≠ name := by
    simpa only [not_forall, exists_prop] using hother
  rw [hambiguous hexists] at hzero
  cases hzero

end Show

/-- A project with two classes of one name, one of them in no package. -/
def twoCustomers : Workspace :=
  (ofModules [("a.py", [auditedClass "Customer" ""]),
    ("b.py", [auditedClass "Customer" "com.example.domain"])]).toWorkspace

/-- Both classes are found, and both have contributions. -/
theorem opening_twoCustomers :
    ∃ es, opening.result (sessionOn twoCustomers ".") = .ok es ∧
      es.map (fun e => (e.1, e.2.name)) =
        [("Customer", "Customer"), ("com.example.domain.Customer", "Customer")] ∧
      ∀ e ∈ es, ∃ k, (contribution e.2).result (opening.after (sessionOn twoCustomers ".")) = .ok k := by
  have hnames : (opening.result (sessionOn twoCustomers ".")).toOption.map
      (·.map fun e => (e.1, e.2.name)) =
        some [("Customer", "Customer"), ("com.example.domain.Customer", "Customer")] := by
    decide +kernel
  have hbuilt : ((opening.result (sessionOn twoCustomers ".")).toOption.getD []).all
      (fun e => ((contribution e.2).result (opening.after (sessionOn twoCustomers "."))).isOk) =
        true := by
    decide +kernel
  cases hopening : opening.result (sessionOn twoCustomers ".") with
  | error f =>
      rw [hopening] at hnames
      cases hnames
  | ok es =>
      rw [hopening] at hnames hbuilt
      refine ⟨es, rfl, Option.some.inj hnames, fun e he => ?_⟩
      have hok := List.all_eq_true.mp hbuilt e he
      cases hresult : (contribution e.2).result (opening.after (sessionOn twoCustomers ".")) with
      | ok k => exact ⟨k, rfl⟩
      | error f =>
          rw [hresult] at hok
          cases hok

/-- The name of a type is enough as long as no class has it. -/
theorem show_typeName_inPackage :
    ∃ es c k, opening.result (sessionOn twoCustomers ".") = .ok es ∧
      ("com.example.domain.Customer", c) ∈ es ∧
      (contribution c).result (opening.after (sessionOn twoCustomers ".")) = .ok k ∧
      (run (.show "com.example.domain.Customer" ".") twoCustomers).2 = { out := k.unit.render } := by
  obtain ⟨es, hopened, hes, hbuilt⟩ := opening_twoCustomers
  have hpair : ("com.example.domain.Customer", "Customer") ∈ es.map fun e => (e.1, e.2.name) := by
    rw [hes]
    decide
  obtain ⟨⟨name, c⟩, hmem, hname⟩ := List.mem_map.mp hpair
  obtain ⟨rfl, -⟩ := Prod.mk.inj hname
  obtain ⟨k, hk⟩ := hbuilt _ hmem
  have hclasses : ∀ e ∈ es, e.2.name = "com.example.domain.Customer" →
      e.1 = "com.example.domain.Customer" := by
    intro e he hclass
    have hmapped : (e.1, e.2.name) ∈ es.map fun e => (e.1, e.2.name) :=
      List.mem_map_of_mem (f := fun e => (e.1, e.2.name)) he
    rw [hes, hclass] at hmapped
    exact absurd hmapped (by simp)
  exact ⟨es, c, k, hopened, hmem, hk, (show_typeName hopened hmem hk).2.1 hclasses⟩

/-- An entity in no package cannot be shown by its full name if another class has its name. -/
theorem show_twoCustomers :
    ∃ es, opening.result (sessionOn twoCustomers ".") = .ok es ∧
      (∀ e ∈ es, ∃ k,
        (contribution e.2).result (opening.after (sessionOn twoCustomers ".")) = .ok k) ∧
      "Customer" ∈ es.map Prod.fst ∧ (run (.show "Customer" ".") twoCustomers).2.exitCode = 1 := by
  obtain ⟨es, hopened, hes, hbuilt⟩ := opening_twoCustomers
  have hnames : es.map Prod.fst = ["Customer", "com.example.domain.Customer"] := by
    have hfirst := congrArg (List.map Prod.fst) hes
    rwa [List.map_map] at hfirst
  refine ⟨es, hopened, hbuilt, ?_, ?_⟩
  · rw [hnames]
    decide
  · decide +kernel

end Command

end AuditAspects
