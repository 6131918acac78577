import AuditAspects.Proofs.ContributionOutcome
import AuditAspects.Proofs.DryRun
import AuditAspects.Proofs.EntityNames
import AuditAspects.Proofs.ListedEntities
import AuditAspects.Proofs.ToldReports

/-!
# Faults that are reported

A command reports the faults of some kinds, and a fault of another kind ends it where it
arises.  In `generate` and `show`, and in a `list` without details, nearly all faults are of
kinds that are reported.  The one exception is a marked class that answers itself for its
type, with something that has no name (`nameless_of_unreported_scan`).

The details of a `list` are said outside of what is caught, so there every fault ends the
command, of whatever kind it is (`reportLaws`).
-/

namespace AuditAspects

/-- A fault of a wrong kind of value is reported. -/
theorem Fault.isReported_of_type {f : Fault} (h : f.kind = .type) : f.isReported = true := by
  rw [isReported, h]
  rfl

/-- A fault of a path or a text that cannot be written is reported. -/
theorem Fault.isReported_of_writing {f : Fault} (h : f.isOfWriting = true) :
    f.isReported = true := by
  cases f with
  | pathHoldsNull => rfl
  | notEncodable refusal => rfl
  | _ => cases h

/-- A step ends with a fault that no command reports. -/
def Unreported {α : Type} (e : Except Fault α) : Prop := ∃ f, e = .error f ∧ f.isReported = false

/-! ## Faults of contracts -/

theorem Binding.kind_of_call {name : String} {b : Binding} {f : Fault}
    (h : b.call name = .error f) : f.kind = .type := by
  cases b <;> cases h <;> rfl

namespace Contract

variable {c : Contract} {f : Fault}

/-- A body that cannot answer is a wrong kind of value. -/
theorem kind_of_answer {q : Question} (h : c.answer? q = some (.error f)) : f.kind = .type := by
  obtain ⟨b, -, hb⟩ := Option.map_eq_some_iff.mp h
  exact Binding.kind_of_call hb

/-- A body fails to answer with a fault of one kind. -/
theorem kind_of_answered {q : Question} {own : Except Fault Value}
    (hown : ∀ g, own = .error g → g.kind = .type) (h : (c.answer? q).getD own = .error f) :
    f.kind = .type := by
  cases hanswer : c.answer? q with
  | none =>
      rw [hanswer] at h
      exact hown f h
  | some answer =>
      rw [hanswer, Option.getD_some] at h
      exact kind_of_answer (h ▸ hanswer)

theorem kind_of_package (h : c.package = .error f) : f.kind = .type :=
  kind_of_answered (fun _ hg => by cases hg) h

theorem kind_of_moduleName (h : c.moduleName = .error f) : f.kind = .type :=
  kind_of_answered (fun _ hg => by cases hg) h

/-- Methods fail to be there for a wrong kind of value. -/
theorem kind_of_methods (h : c.methods = .error f) : f.kind = .type := by
  refine kind_of_answered (fun g hg => ?_) h
  rw [collectedMethods] at hg
  split at hg
  · cases hg
    rfl
  · cases hg

/-- A contract that fails to say whether it declares a method fails with a fault of one
kind. -/
theorem kind_of_target {name : String} (h : c.target.declares name = .error f) :
    f.kind = .type := by
  have hdeclares : c.target.declares name = c.methods >>= Value.holds name := rfl
  rw [hdeclares] at h
  cases hmethods : c.methods with
  | error g =>
      rw [hmethods] at h
      cases h
      exact kind_of_methods hmethods
  | ok v =>
      rw [hmethods] at h
      cases v <;> cases h <;> rfl

theorem isReported_of_typeIn {v : Value} (h : c.typeIn v = .error f) : f.isReported = true := by
  rw [typeIn, TypeName.ofValue] at h
  split at h
  · cases h
  · cases h
    rfl

/-- Only what a class answers itself for its type can lack a name. -/
theorem answer_of_unreported_type (h : c.type = .error f) (hf : f.isReported = false) :
    ∃ v, c.answer? .type = some (.ok v) ∧
      f = .operationMissing v.kindName TypeName.nameOperation := by
  have hreported : f.isReported ≠ true := by simp [hf]
  cases hanswer : c.answer? .type with
  | some answer =>
      rw [type_of_answered hanswer] at h
      cases answer with
      | ok v =>
          cases h
          exact ⟨v, rfl, rfl⟩
      | error g =>
          cases h
          exact absurd (Fault.isReported_of_type (kind_of_answer hanswer)) hreported
  | none =>
      rw [type_of_unanswered hanswer] at h
      cases hpackage : c.package with
      | error g =>
          rw [hpackage] at h
          cases h
          exact absurd (Fault.isReported_of_type (kind_of_package hpackage)) hreported
      | ok v =>
          rw [hpackage] at h
          exact absurd (isReported_of_typeIn h) hreported

end Contract

namespace Session

open Step

variable {s : Session} {f : Fault}

/-! ## Faults of units -/

theorem kind_of_logicalPath {c : Contract} (h : s.logicalPath c = .error f) : f.kind = .type := by
  rw [logicalPath] at h
  cases hmodule : c.moduleName with
  | error g =>
      rw [hmodule] at h
      cases h
      exact Contract.kind_of_moduleName hmodule
  | ok v =>
      rw [hmodule] at h
      cases h

/-- Whatever keeps a contribution from being made for a contract is reported. -/
theorem isReported_of_forType {type : TypeName} {c : Contract} {config : Offered Config}
    {path : LogicalPath} {log : List Record}
    (h : (Contribution.forType type (.proper c.target) config path).result log = .error f) :
    f.isReported = true := by
  by_cases hreadable : path.Unreadable
  · rw [Contribution.forType_of_unreadable hreadable] at h
    cases h
    rfl
  · obtain ⟨governor, hgovernor, -⟩ := Identifier.exists_type_create type hreadable
    rw [Contribution.result_forType_of_governor hgovernor] at h
    split at h
    next g hg =>
      cases h
      rcases fault_of_produce hg with hkind | ⟨t, ht, name, -, hname⟩
      · rw [Fault.isReported, hkind]
        rfl
      · cases ht
        exact Fault.isReported_of_type (Contract.kind_of_target hname)
    · cases h

/-- Whatever keeps a class with a type from having a contribution is reported. -/
theorem isReported_of_contribution {c : Contract} {type : TypeName} (htype : c.type = .ok type)
    (h : (contribution c).result s = .error f) : f.isReported = true := by
  rw [contribution, result_bind_of_ok _ (result_get s), after_get] at h
  rcases bind_eq_error h with h | ⟨path, -, h⟩
  · rw [result_ofExcept] at h
    exact Fault.isReported_of_type (kind_of_logicalPath h)
  · rw [htype] at h
    rcases bind_eq_error h with h | ⟨_, htype', h⟩
    · cases h
    · rw [result_onLog] at h
      exact isReported_of_forType h

/-- Whatever keeps a class with a type from being rendered is reported. -/
theorem isReported_of_unitOf {c : Contract} {type : TypeName} (htype : c.type = .ok type)
    (h : s.unitOf c = .error f) : f.isReported = true := by
  rw [unitOf] at h
  cases hcontribution : (contribution c).result s with
  | error g =>
      rw [hcontribution] at h
      cases h
      exact isReported_of_contribution htype hcontribution
  | ok k =>
      simp only [hcontribution, unitPath] at h
      split at h
      · cases h
      · cases h
        rfl

/-! ## Faults of runs -/

theorem kind_of_loadSettings (h : loadSettings.result s = .error f) : f.kind = .runtime := by
  rw [loadSettings, result_bind_of_ok _ (result_get s), after_get] at h
  cases hmodule : s.settingsModule? with
  | none =>
      rw [hmodule] at h
      cases h
  | some m =>
      rw [hmodule] at h
      cases m with
      | bindings entries => cases h
      | fails kind text =>
          cases h
          rfl

/-- A fault that keeps a project from opening, and is not reported, is one of its scan. -/
theorem scan_of_unreported_opening (h : opening.result s = .error f) (hf : f.isReported = false) :
    scan.result s = .error f := by
  rw [result_opening] at h
  split at h
  next g hload =>
    cases h
    split at hload
    · rw [Fault.isReported, kind_of_loadSettings hload] at hf
      cases hf
    · cases hload
  · rw [s.scan_eq.1]
    exact h

/-- A marked class of a project answers itself for its type, with something that has no
name. -/
def Nameless (s : Session) (f : Fault) : Prop :=
  ∃ x ∈ s.found, ∃ cs, x.ending = .ok cs ∧ ∃ c ∈ cs, ∃ v,
    c.answer? .type = some (.ok v) ∧ f = .operationMissing v.kindName TypeName.nameOperation

/-- What a scan fails with and is not reported comes from a class without a name. -/
theorem nameless_of_unreported_scan (h : scan.result s = .error f) (hf : f.isReported = false) :
    s.Nameless f := by
  rw [s.scan_eq.1] at h
  obtain ⟨before, x, after, r, hfound, hbefore, hx⟩ := Roll.enterFindings_eq_error h
  obtain ⟨-, hclasses⟩ := Roll.enterFindings_eq_ok_iff.mp hbefore
  have hmem : x ∈ s.found := hfound ▸ List.mem_append_right _ List.mem_cons_self
  have hearlier : Roll.Records r (before.flatMap Finding.classes) :=
    Roll.records_nil.enterAll hclasses
  cases scanFault_of_enterFinding hearlier (s.found_decorated_allNamed x hmem) hx with
  | handedOn _ _ hauditing =>
      rw [Fault.isAuditing] at hauditing
      rw [Fault.isReported] at hf
      cases hkind : f.kind <;> simp_all [FaultKind.isAuditing, FaultKind.isReported]
  | wrapped => cases hf
  | markedTwice => cases hf
  | boundTwice => cases hf
  | @unnamed _ _ c _ hending _ hc =>
      exact ⟨x, hmem, _, hending, c, List.mem_append_right _ List.mem_cons_self,
        Contract.answer_of_unreported_type hc hf⟩

/-- A fault of generation that is not reported is one of opening the project. -/
theorem opening_of_unreported_generate (h : generate.result s = .error f)
    (hf : f.isReported = false) : opening.result s = .error f := by
  rw [result_generate] at h
  cases hopening : opening.result s with
  | error g =>
      rw [hopening] at h
      cases h
      rfl
  | ok es =>
      simp only [hopening] at h
      cases hunits : (opening.after s).unitsOf (sortEntities es) with
      | ok units =>
          rw [hunits] at h
          cases h
      | error g =>
          rw [hunits] at h
          cases h
          obtain ⟨before, e, after, -, hsplit, -, hfailed⟩ := unitsOf_eq_error hunits
          have he : e ∈ es := mem_sortBy.mp (hsplit ▸ List.mem_append_right _ List.mem_cons_self)
          obtain ⟨type, htype, -⟩ := ((records_opening hopening).named e he).2
          rw [isReported_of_unitOf htype hfailed] at hf
          cases hf

theorem kind_of_pathText {v : Value} (h : pathText v = .error f) : f.kind = .type := by
  unfold pathText at h
  split at h <;> cases h <;> rfl

/-- Only a value of a wrong kind keeps a directory from being there. -/
theorem kind_of_outputBase {output : Option Location} (h : s.outputBase output = .error f) :
    f.kind = .type := by
  cases output with
  | some base => cases h
  | none =>
      rw [outputBase, outputDir] at h
      cases hpath : pathText (s.setting .outputDir) with
      | ok path =>
          rw [hpath] at h
          cases h
      | error g =>
          rw [hpath] at h
          cases h
          exact kind_of_pathText hpath

/-- A fault of writing that is not reported is one of opening the project. -/
theorem opening_of_unreported_write {output : Option Location}
    (h : (write output).result s = .error f) (hf : f.isReported = false) :
    opening.result s = .error f := by
  rw [result_write] at h
  cases hgenerate : generate.result s with
  | error g =>
      rw [hgenerate] at h
      cases h
      exact opening_of_unreported_generate hgenerate hf
  | ok rendered =>
      rw [hgenerate] at h
      cases hbase : (generate.after s).outputBase output with
      | error g =>
          rw [hbase] at h
          cases h
          rw [Fault.isReported_of_type (kind_of_outputBase hbase)] at hf
          cases hf
      | ok base =>
          simp only [hbase] at h
          obtain ⟨before, u, after, -, -, hfault, -⟩ := writeAll_eq_error h
          rw [Fault.isReported_of_writing (Location.isOfWriting_of_writeFault hfault)] at hf
          cases hf

end Session

/-! ## Reports of commands -/

namespace Report

variable {α : Type} {say : α → Report} {opening : String} {e : Except Fault α}

/-- The report of a result: what is said of it, or else the message of its fault. -/
def ofResult (say : α → Report) (opening : String) : Except Fault α → Report
  | .ok a => say a
  | .error f => .ofFault f ("[ERROR] " ++ (opening ++ f.message))

/-- The report of a result tells unless its fault is not reported or what is said does not tell.
-/
theorem tells_ofResult_iff :
    (ofResult say opening e).Tells ↔ ¬Unreported e ∧ ∀ a, e = .ok a → (say a).Tells := by
  cases e with
  | ok a =>
      constructor
      · intro h
        refine ⟨?_, fun b hb => Except.ok.inj hb ▸ h⟩
        rintro ⟨f, hf, -⟩
        cases hf
      · exact fun h => h.2 a rfl
  | error f =>
      rw [ofResult, tells_ofFault_iff]
      constructor
      · intro hreported
        refine ⟨?_, fun b hb => nomatch hb⟩
        rintro ⟨g, hg, hunreported⟩
        cases hg
        rw [hreported] at hunreported
        cases hunreported
      · intro h
        by_contra hunreported
        exact h.1 ⟨f, rfl, (Bool.not_eq_true _).mp hunreported⟩

/-- Only a fault that is not reported escapes, if all there is to say can be said. -/
theorem escaped_ofResult (hsay : ∀ a, e = .ok a → (say a).Tells) {f : Fault}
    (h : (ofResult say opening e).escaped = some f) : e = .error f ∧ f.isReported = false := by
  cases e with
  | ok a =>
      rw [ofResult, (hsay a rfl).caught] at h
      cases h
  | error g =>
      rw [ofResult, ofFault] at h
      split at h
      · cases h
      next hg =>
        cases h
        exact ⟨rfl, (Bool.not_eq_true _).mp hg⟩

/-- A fault is reported without a line on standard output. -/
theorem noLines_ofFault (f : Fault) (line : String) :
    { ofFault f line with out := (ofLines []).out } = ofFault f line := by
  rw [ofFault]
  split <;> rfl

theorem tells_ofLines (lines : List String) : (ofLines lines).Tells :=
  tells_of_success rfl rfl rfl

end Report

namespace Command

open Session Step

section Reports

variable (project : String) (w : Workspace)

/-- On an output that takes every text, all lines are said. -/
theorem saidReport_eq_ofResult {α : Type} (lines : α → List String)
    (failed : List String → Fault → Report) (e : Except Fault α) :
    saidReport lines failed .lenient e =
      .ofResult (fun a => .ofLines (lines a)) "Generation failed: " e := by
  cases e with
  | ok a => exact saidReport_of_encodes fun _ _ _ _ => rfl
  | error f =>
      have hopening : "[ERROR] Generation failed: " = "[ERROR] " ++ "Generation failed: " := rfl
      rw [saidReport, generationFailed, Report.ofResult, hopening, String.append_assoc]
      exact Report.noLines_ofFault f _

/-- What is said of a unit that was looked for. -/
def foundReport : Except String String → Report
  | .ok source => { out := source }
  | .error text => .failure ("[ERROR] " ++ text)

theorem tells_foundReport (answer : Except String String) : (foundReport answer).Tells := by
  cases answer with
  | ok source => exact Report.tells_of_success rfl rfl rfl
  | error text => exact Report.tells_failure text

theorem unitReport_eq_ofResult (e : Except Fault (Except String String)) :
    unitReport e = .ofResult foundReport "" e := by
  cases e with
  | ok answer => cases answer <;> rfl
  | error f => rw [unitReport, Report.ofResult, String.empty_append]

/-- The report of a listing is that of its scan, which may end while entities are said. -/
theorem report_list_eq_ofResult (verbose : Bool) :
    (run (.list project verbose) w).2 =
      .ofResult (fun es => reportOf (sayList .lenient verbose (scan.after (sessionOn w project)) es))
        "Failed to import: " (scan.result (sessionOn w project)) := by
  rw [report_list]
  cases scan.result (sessionOn w project) with
  | ok es => rfl
  | error f =>
      have hopening : "[ERROR] Failed to import: " = "[ERROR] " ++ "Failed to import: " := rfl
      simp only [Report.ofResult, hopening, String.append_assoc]

/-- A listing tells exactly if all there is to say of its entities can be said. -/
theorem tells_sayList_iff {verbose : Bool} {s : Session} {es : List (String × Contract)} :
    (reportOf (sayList .lenient verbose s es)).Tells ↔
      (verbose = true → ∀ e ∈ es, Details s e.2) := by
  rw [← sayList_eq_ok_iff, reportOf_eq]
  split
  next hok => exact iff_of_true (Report.tells_ofLines _) hok
  next f herror =>
    rw [herror]
    exact iff_of_false (Report.not_tells_ended _ f) fun h => by cases h

end Reports

/-! ## The laws -/

/-- What is reported of a project, and what is not, on an output that takes every text. -/
structure ReportLaws (project : String) (w : Workspace) : Prop where
  /-- A generation tells how it went, unless the project cannot be opened for a reason that
  is not reported. -/
  generates : ∀ output dryRun, (run (.generate project output dryRun) w).2.Tells ↔
    ¬Unreported (opening.result (sessionOn w project))
  /-- So does showing an entity. -/
  shows : ∀ entity, (run (.show entity project) w).2.Tells ↔
    ¬Unreported (opening.result (sessionOn w project))
  /-- A listing tells how it went, unless there is such a reason in its scan or, with
  details, an entity of which not all can be said. -/
  lists : ∀ verbose, (run (.list project verbose) w).2.Tells ↔
    ¬Unreported (scan.result (sessionOn w project)) ∧
      ∀ es, scan.result (sessionOn w project) = .ok es → verbose = true →
        ∀ e ∈ es, Details (scan.after (sessionOn w project)) e.2
  /-- The only reasons are marked classes without names; no fault of auditing, and none of a
  wrong value, of a wrong kind of value or of a step that failed escapes. -/
  escapes : ∀ c f,
    (∃ output dryRun, c = .generate project output dryRun) ∨ (∃ entity, c = .show entity project) ∨
      c = .list project false →
    (run c w).2.escaped = some f → (sessionOn w project).Nameless f ∧ f.isReported = false

/-- A report tells unless something cannot be opened for a reason that is not reported, and
then that reason escapes. -/
structure TellsOf {β : Type} (r : Report) (opened : Except Fault β) : Prop where
  tells_iff : r.Tells ↔ ¬Unreported opened
  escaped : ∀ f, r.escaped = some f → opened = .error f ∧ f.isReported = false

/-- A result whose unreported faults are those of an opening tells with it. -/
theorem tellsOf_ofResult {α β : Type} {say : α → Report} {text : String} {e : Except Fault α}
    {opened : Except Fault β} (hsay : ∀ a, (say a).Tells)
    (hsame : ∀ f, f.isReported = false → (e = .error f ↔ opened = .error f)) :
    TellsOf (.ofResult say text e) opened := by
  constructor
  · have hunreported : Unreported e ↔ Unreported opened :=
      exists_congr fun f => and_congr_left fun hf => hsame f hf
    rw [Report.tells_ofResult_iff, hunreported]
    exact and_iff_left fun a _ => hsay a
  · intro f hf
    obtain ⟨herror, hf⟩ := Report.escaped_ofResult (fun a _ => hsay a) hf
    exact ⟨(hsame f hf).mp herror, hf⟩

section Laws

variable (project : String) (w : Workspace)

/-- A generation tells with the opening of its project. -/
theorem tellsOf_generate (output : Option String) (dryRun : Bool) :
    TellsOf (run (.generate project output dryRun) w).2
      (opening.result (sessionOn w project)) := by
  cases dryRun with
  | true =>
      rw [run, report_dryRun, saidReport_eq_ofResult]
      refine tellsOf_ofResult (fun _ => Report.tells_ofLines _) fun f hf => ?_
      refine ⟨fun h => opening_of_unreported_generate h hf, fun h => ?_⟩
      rw [result_generate, h]
  | false =>
      rw [run, report_generate, saidReport_eq_ofResult]
      refine tellsOf_ofResult (fun _ => Report.tells_ofLines _) fun f hf => ?_
      refine ⟨fun h => opening_of_unreported_write h hf, fun h => ?_⟩
      rw [result_write, result_generate, h]

/-- A fault of a search that is not reported is one of opening the project. -/
theorem opening_of_unreported_findUnit {s : Session} (hs : s.settings = none) {entity : String}
    {f : Fault} (h : (findUnit entity).result s = .error f) (hf : f.isReported = false) :
    opening.result s = .error f := by
  rw [result_findUnit entity hs] at h
  cases hopening : opening.result s with
  | error g =>
      rw [hopening] at h
      cases h
      rfl
  | ok es =>
      simp only [hopening] at h
      split at h
      · cases h
      next e hpicked =>
        have he : e ∈ matching entity es := hpicked ▸ List.mem_cons_self
        obtain ⟨type, htype, -⟩ := ((records_opening hopening).named e (mem_matching.mp he).1).2
        cases hresult : (contribution e.2).result (opening.after s) with
        | ok k =>
            rw [hresult] at h
            cases h
        | error g =>
            rw [hresult] at h
            cases h
            rw [isReported_of_contribution htype hresult] at hf
            cases hf
      · cases h

/-- Showing an entity tells with the opening of its project. -/
theorem tellsOf_show (entity : String) :
    TellsOf (run (.show entity project) w).2 (opening.result (sessionOn w project)) := by
  rw [report_show, unitReport_eq_ofResult]
  refine tellsOf_ofResult tells_foundReport fun f hf => ?_
  refine ⟨fun h => opening_of_unreported_findUnit rfl h hf, fun h => ?_⟩
  rw [result_findUnit entity rfl, h]

theorem tellsOf_list :
    TellsOf (run (.list project false) w).2 (scan.result (sessionOn w project)) := by
  rw [report_list_eq_ofResult]
  exact tellsOf_ofResult (fun _ => tells_sayList_iff.mpr fun h => nomatch h) fun _ _ => Iff.rfl

/-- Every project is reported on by these laws. -/
theorem reportLaws : ReportLaws project w where
  generates := fun output dryRun => (tellsOf_generate project w output dryRun).tells_iff
  shows := fun entity => (tellsOf_show project w entity).tells_iff
  lists := by
    intro verbose
    rw [report_list_eq_ofResult, Report.tells_ofResult_iff]
    simp only [tells_sayList_iff]
  escapes := by
    rintro c f (⟨output, dryRun, rfl⟩ | ⟨entity, rfl⟩ | rfl) hescaped
    · obtain ⟨hopening, hf⟩ := (tellsOf_generate project w output dryRun).escaped f hescaped
      exact ⟨nameless_of_unreported_scan (scan_of_unreported_opening hopening hf) hf, hf⟩
    · obtain ⟨hopening, hf⟩ := (tellsOf_show project w entity).escaped f hescaped
      exact ⟨nameless_of_unreported_scan (scan_of_unreported_opening hopening hf) hf, hf⟩
    · obtain ⟨hscan, hf⟩ := (tellsOf_list project w).escaped f hescaped
      exact ⟨nameless_of_unreported_scan hscan hf, hf⟩

end Laws

/-- A project with an entity that declares a number for a method. -/
def numberedMethod : Workspace :=
  (ofModules [("a.py", [.define {
    name := "Customer"
    marker := some []
    clause := .given { declaredMethods := some (.list [.int 1]) } }])]).toWorkspace

/-- A listing with details is ended by a fault of a kind that is reported elsewhere: that the
number is no text. -/
theorem list_numberedMethod :
    (run (.list "." true) numberedMethod).2.escaped = some (.partNotText 0 "int") ∧
      (Fault.partNotText 0 "int").kind = .type ∧
      (run (.list "." true) numberedMethod).2.exitCode = 1 ∧
      (run (.list "." true) numberedMethod).2.err = "" ∧
      ¬(run (.list "." true) numberedMethod).2.Tells := by
  have hescaped : (run (.list "." true) numberedMethod).2.escaped = some (.partNotText 0 "int") := by
    decide +kernel
  refine ⟨hescaped, rfl, ?_, ?_, fun h => ?_⟩
  · decide +kernel
  · decide +kernel
  · rw [h.caught] at hescaped
    cases hescaped

end Command

end AuditAspects
