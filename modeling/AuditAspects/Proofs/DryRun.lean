import AuditAspects.Proofs.SaidLines
import AuditAspects.Proofs.ShownEntity
import AuditAspects.Proofs.WrittenUnits

/-!
# Dry runs

A dry run renders what a generation renders, and stops before the output directory is
looked at.  So it fails where units cannot be rendered, it touches no file, and it lists the
paths that a generation puts under the output directory (`DryRunOutcome`).  A generation may
still fail where its dry run does not: if there is no output directory, or if a unit cannot be
written.

Both say paths.  A path that cannot be encoded is one that neither can say, but a generation
may find out about it earlier, and then the two fail with different messages
(`dryRun_loneSurrogate`).
-/

namespace AuditAspects

open Text (Encoding)

/-! ## Paths under a directory -/

namespace Location

/-- What is joined has the characters of its parts. -/
theorem mem_intercalate {separator part : String} {parts : List String} (h : part ∈ parts)
    {c : Char}
    (hc : c ∈ part.toList) : c ∈ (separator.intercalate parts).toList := by
  induction parts with
  | nil => exact absurd h List.not_mem_nil
  | cons first rest ih =>
      cases rest with
      | nil =>
          rw [List.mem_singleton.mp h] at hc
          rwa [String.intercalate_singleton]
      | cons next rest =>
          rw [String.intercalate_cons_cons]
          simp only [String.toList_append, List.mem_append]
          rcases List.mem_cons.mp h with rfl | h
          · exact .inl (.inl hc)
          · exact .inr (ih h)

/-- A path has the characters of its segments. -/
theorem mem_text_of_part {l : Location} {part : String} (h : part ∈ l.parts) {c : Char}
    (hc : c ∈ part.toList) : c ∈ l.text.toList := by
  have hne : ¬(l.root = "" && l.parts = []) = true := by
    simp [List.ne_nil_of_mem h]
  rw [text, if_neg hne, String.toList_append]
  exact List.mem_append_right _ (mem_intercalate h hc)

/-- A path can be encoded if it can be under some directory. -/
theorem encodes_of_child {e : Encoding} {base : Location} {path : String}
    (h : e.Encodes (base.child path).text) : e.Encodes path := by
  intro c hc
  by_cases hplain : c = '/' ∨ c = '.'
  · have htaken : e.takes '/' = true ∧ e.takes '.' = true := by cases e <;> decide
    rcases hplain with rfl | rfl
    · exact htaken.1
    · exact htaken.2
  · obtain ⟨hslash, hdot⟩ := not_or.mp hplain
    obtain ⟨segment, hsegment, hmem⟩ := Text.exists_mem_segments hc hslash
    have hpart : String.ofList segment ∈ (ofText path).parts := by
      refine List.mem_filter.mpr ⟨List.mem_map_of_mem hsegment, ?_⟩
      have hempty : String.ofList segment ≠ "" := by
        intro heq
        rw [String.ofList_eq_empty_iff] at heq
        exact List.not_mem_nil (heq ▸ hmem)
      have hhere : String.ofList segment ≠ "." := by
        intro heq
        have hlist := congrArg String.toList heq
        rw [String.toList_ofList] at hlist
        rw [hlist] at hmem
        exact hdot (List.mem_singleton.mp hmem)
      simp [hempty, hhere]
    have hchild : String.ofList segment ∈ (base.child path).parts := by
      rw [child, join]
      split
      · exact hpart
      · exact List.mem_append_right _ hpart
    exact h c (mem_text_of_part hchild (by rwa [String.toList_ofList]))

end Location

namespace Command

open Session Step

/-! ## Reports -/

section Reports

variable {α : Type} (lines : α → List String) (failed : List String → Fault → Report)
  (stdout : Encoding)

/-- The report of a generation, by how it ends: it says lines, and is left in some way if one
of them cannot be said. -/
def saidReport : Except Fault α → Report
  | .error f => generationFailed [] f
  | .ok a =>
      match (say stdout (lines a)).result [] with
      | .ok () => .ofLines ((say stdout (lines a)).after [])
      | .error f => failed ((say stdout (lines a)).after []) f

variable {lines failed stdout}

theorem saidReport_of_encodes {a : α} (h : ∀ line ∈ lines a, stdout.Encodes line) :
    saidReport lines failed stdout (.ok a) = .ofLines (lines a) := by
  rw [saidReport, result_say_eq_ok_iff.mpr h, after_say_of_encodes h]
  rfl

theorem exitCode_generationFailed (said : List String) (f : Fault) :
    (generationFailed said f).exitCode = 1 := (ofFault_silent f _).1

variable (hfailed : ∀ said f, (failed said f).exitCode = 1)
include hfailed

/-- A line that cannot be encoded makes the command fail. -/
theorem exitCode_saidReport_of_not_encodes {a : α} (h : ¬∀ line ∈ lines a, stdout.Encodes line) :
    (saidReport lines failed stdout (.ok a)).exitCode = 1 := by
  rw [saidReport]
  split
  next hok => exact absurd (result_say_eq_ok_iff.mp hok) h
  next f _ => exact hfailed _ f

theorem exitCode_saidReport (e : Except Fault α) :
    (saidReport lines failed stdout e).exitCode = 0 ∨
      (saidReport lines failed stdout e).exitCode = 1 := by
  cases e with
  | error f => exact .inr (exitCode_generationFailed [] f)
  | ok a =>
      by_cases h : ∀ line ∈ lines a, stdout.Encodes line
      · exact .inl (congrArg Report.exitCode (saidReport_of_encodes h))
      · exact .inr (exitCode_saidReport_of_not_encodes hfailed h)

/-- A generation goes through exactly if it ends well and can say its lines. -/
theorem exitCode_saidReport_eq_zero_iff {e : Except Fault α} :
    (saidReport lines failed stdout e).exitCode = 0 ↔
      ∃ a, e = .ok a ∧ ∀ line ∈ lines a, stdout.Encodes line := by
  constructor
  · intro hzero
    cases e with
    | error f =>
        rw [saidReport, exitCode_generationFailed] at hzero
        cases hzero
    | ok a =>
        refine ⟨a, rfl, ?_⟩
        by_contra h
        rw [exitCode_saidReport_of_not_encodes hfailed h] at hzero
        cases hzero
  · rintro ⟨a, rfl, h⟩
    exact congrArg Report.exitCode (saidReport_of_encodes h)

end Reports

section Lines

variable {stdout : Encoding}

/-- Lines that say paths, with a last line that counts them, can be encoded if the paths can
and the words around them. -/
theorem encodes_countedLines {α : Type} {items : List α} {path : α → String}
    {opening ok ending : String} (hopening : stdout.Encodes opening) (hok : stdout.Encodes ok)
    (hending : stdout.Encodes ending) :
    (∀ line ∈ items.map (fun a => opening ++ path a) ++
        [ok ++ toString items.length ++ ending], stdout.Encodes line) ↔
      ∀ a ∈ items, stdout.Encodes (path a) := by
  have hcount := stdout.encodes_toString items.length
  rw [List.forall_mem_append, List.forall_mem_map, List.forall_mem_singleton]
  simp only [Encoding.encodes_append]
  exact ⟨fun h a ha => (h.1 a ha).2,
    fun h => ⟨fun a ha => ⟨hopening, h a ha⟩, ⟨hok, hcount⟩, hending⟩⟩

/-- The lines of a dry run can be encoded if the paths can. -/
theorem encodes_dryRunLines {rendered : Rendered} :
    (∀ line ∈ dryRunLines rendered, stdout.Encodes line) ↔ ∀ u ∈ rendered, stdout.Encodes u.1 := by
  have hwords : stdout.Encodes "  Would write: " ∧ stdout.Encodes "[OK] " ∧
      stdout.Encodes " ITD file(s) would be generated" := by
    cases stdout <;> decide
  exact encodes_countedLines hwords.1 hwords.2.1 hwords.2.2

/-- The lines of a generation can be encoded if the paths of the files can. -/
theorem encodes_writtenLines {written : List Location} :
    (∀ line ∈ writtenLines written, stdout.Encodes line) ↔
      ∀ l ∈ written, stdout.Encodes l.text := by
  have hwords : stdout.Encodes "  Created: " ∧ stdout.Encodes "[OK] Generated " ∧
      stdout.Encodes " ITD file(s)" := by
    cases stdout <;> decide
  exact encodes_countedLines hwords.1 hwords.2.1 hwords.2.2

end Lines

section Runs

variable (stdout : Encoding) (project : String) (output : Option String) (w : Workspace)

/-- The report of a dry run is that of what it renders. -/
theorem report_dryRun :
    (runOn stdout (.generate project output true) w).2 =
      saidReport dryRunLines generationFailed stdout
        (Session.generate.result (sessionOn w project)) := by
  rw [runOn, inProject, runDryRun, Step.result, sessionOn]
  cases Session.generate.run (.start w (.ofText project)) with
  | error f s => rfl
  | ok rendered s =>
      simp only [saidReport, Step.result, Step.after]
      cases (say stdout (dryRunLines rendered)).run [] <;> rfl

/-- The report of a generation is that of what it writes. -/
theorem report_generate :
    (runOn stdout (.generate project output false) w).2 =
      saidReport writtenLines .ended stdout
        ((Session.write (outputPlace output)).result (sessionOn w project)) := by
  rw [runOn, inProject, runGenerate, Step.result, sessionOn]
  cases (Session.write (outputPlace output)).run (.start w (.ofText project)) with
  | error f s => rfl
  | ok written s => exact reportOf_eq _

theorem workspace_dryRun :
    (runOn stdout (.generate project output true) w).1 =
      (Session.generate.after (sessionOn w project)).toWorkspace := by
  rw [runOn, inProject, runDryRun, Step.after, sessionOn]
  cases Session.generate.run (.start w (.ofText project)) with
  | error f s => rfl
  | ok rendered s =>
      simp only
      cases (say stdout (dryRunLines rendered)).run [] <;> rfl

theorem workspace_generate :
    (runOn stdout (.generate project output false) w).1 =
      ((Session.write (outputPlace output)).after (sessionOn w project)).toWorkspace := by
  rw [runOn, inProject, runGenerate, Step.after, sessionOn]
  cases (Session.write (outputPlace output)).run (.start w (.ofText project)) <;> rfl

/-- A dry run goes through exactly if units are rendered whose paths can be said. -/
theorem exitCode_dryRun_eq_zero_iff :
    (runOn stdout (.generate project output true) w).2.exitCode = 0 ↔
      ∃ rendered, Session.generate.result (sessionOn w project) = .ok rendered ∧
        ∀ u ∈ rendered, stdout.Encodes u.1 := by
  rw [report_dryRun, exitCode_saidReport_eq_zero_iff exitCode_generationFailed]
  simp only [encodes_dryRunLines]

/-- A generation goes through exactly if units are rendered that can be written under some
directory, and the paths of the files can be said. -/
theorem exitCode_generate_eq_zero_iff :
    (runOn stdout (.generate project output false) w).2.exitCode = 0 ↔
      ∃ rendered base, Session.generate.result (sessionOn w project) = .ok rendered ∧
        (opening.after (sessionOn w project)).outputBase (outputPlace output) = .ok base ∧
        ∀ u ∈ rendered, (base.child u.1).writeFault? u.2 = none ∧
          stdout.Encodes (base.child u.1).text := by
  rw [report_generate, exitCode_saidReport_eq_zero_iff fun _ _ => rfl]
  simp only [encodes_writtenLines]
  constructor
  · rintro ⟨written, hwrite, hlines⟩
    obtain ⟨rendered, base, hgenerate, hbase, rfl, hclean, -⟩ := write_eq_ok hwrite
    obtain ⟨es, units, hopening, -, -⟩ := generate_eq_ok hgenerate
    rw [outputBase_after_generate _ hopening] at hbase
    rw [List.forall_mem_map] at hlines
    exact ⟨rendered, base, hgenerate, hbase, fun u hu => ⟨hclean u hu, hlines u hu⟩⟩
  · rintro ⟨rendered, base, hgenerate, hbase, hunits⟩
    obtain ⟨es, units, hopening, -, -⟩ := generate_eq_ok hgenerate
    rw [← outputBase_after_generate _ hopening] at hbase
    refine ⟨_, (result_write_of_clean hgenerate hbase fun u hu => (hunits u hu).1).1, ?_⟩
    rw [List.forall_mem_map]
    exact fun u hu => (hunits u hu).2

theorem exitCode_of_failed (dryRun : Bool)
    (h : (runOn stdout (.generate project output dryRun) w).2.exitCode ≠ 0) :
    (runOn stdout (.generate project output dryRun) w).2.exitCode = 1 := by
  cases dryRun with
  | true =>
      rw [report_dryRun] at h ⊢
      exact (exitCode_saidReport exitCode_generationFailed _).resolve_left h
  | false =>
      rw [report_generate] at h ⊢
      exact (exitCode_saidReport (fun _ _ => rfl) _).resolve_left h

end Runs

/-- How a generation and its dry run agree, on a standard output of some encoding. -/
structure DryRunOutcome (stdout : Encoding) (project : String) (output : Option String)
    (w : Workspace) : Prop where
  /-- A generation that goes through reports just the paths that the dry run lists, in the
  same order, each as seen from the output directory. -/
  agrees : (runOn stdout (.generate project output false) w).2.exitCode = 0 →
    ∃ rendered base, Session.generate.result (sessionOn w project) = .ok rendered ∧
      (opening.after (sessionOn w project)).outputBase (outputPlace output) = .ok base ∧
      (runOn stdout (.generate project output true) w).2 = .ofLines
        (rendered.map (fun u => "  Would write: " ++ u.1) ++
          ["[OK] " ++ toString rendered.length ++ " ITD file(s) would be generated"]) ∧
      (runOn stdout (.generate project output true) w).2.exitCode = 0 ∧
      (runOn stdout (.generate project output false) w).2 = .ofLines
        (rendered.map (fun u => "  Created: " ++ (base.child u.1).text) ++
          ["[OK] Generated " ++ toString rendered.length ++ " ITD file(s)"])
  /-- Where the dry run fails, the generation fails too.  It says the same, unless the dry run
  fails over a path that cannot be said. -/
  fails : (runOn stdout (.generate project output true) w).2.exitCode ≠ 0 →
    (runOn stdout (.generate project output false) w).2.exitCode ≠ 0 ∧
      ((runOn stdout (.generate project output false) w).2 =
          (runOn stdout (.generate project output true) w).2 ∨
        ∃ rendered, Session.generate.result (sessionOn w project) = .ok rendered ∧
          ∃ u ∈ rendered, ¬stdout.Encodes u.1)
  /-- Both fail with the exit code one. -/
  failed : ∀ dryRun, (runOn stdout (.generate project output dryRun) w).2.exitCode ≠ 0 →
    (runOn stdout (.generate project output dryRun) w).2.exitCode = 1
  /-- What a generation needs beyond rendered units: an output directory, and units that can
  be written and said there. -/
  goes_iff : (runOn stdout (.generate project output false) w).2.exitCode = 0 ↔
    ∃ rendered base, Session.generate.result (sessionOn w project) = .ok rendered ∧
      (opening.after (sessionOn w project)).outputBase (outputPlace output) = .ok base ∧
      ∀ u ∈ rendered, (base.child u.1).writeFault? u.2 = none ∧
        stdout.Encodes (base.child u.1).text
  /-- A dry run leaves all files and directories as they are. -/
  tree : (runOn stdout (.generate project output true) w).1.tree = w.tree
  /-- A dry run keeps the code that a generation keeps: that of modules of the project. -/
  kept : (runOn stdout (.generate project output true) w).1.kept =
      (runOn stdout (.generate project output false) w).1.kept ∧
    ∃ loaded, (∀ l ∈ loaded, (sessionOn w project).IsModule l) ∧
      (runOn stdout (.generate project output true) w).1.kept =
        w.kept ++ (sessionOn w project).keptOf loaded

/-- Every generation and its dry run agree in this way. -/
theorem dryRunOutcome (stdout : Encoding) (project : String) (output : Option String)
    (w : Workspace) : DryRunOutcome stdout project output w where
  agrees := by
    intro hzero
    obtain ⟨rendered, base, hgenerate, hbase, hunits⟩ :=
      (exitCode_generate_eq_zero_iff stdout project output w).mp hzero
    obtain ⟨es, units, hopening, -, -⟩ := generate_eq_ok hgenerate
    have hpaths : ∀ u ∈ rendered, stdout.Encodes u.1 := fun u hu =>
      Location.encodes_of_child (hunits u hu).2
    have hdry : (runOn stdout (.generate project output true) w).2 =
        .ofLines (dryRunLines rendered) := by
      rw [report_dryRun, hgenerate, saidReport_of_encodes (encodes_dryRunLines.mpr hpaths)]
    have hwritten : (runOn stdout (.generate project output false) w).2 =
        .ofLines (writtenLines (rendered.map fun u => base.child u.1)) := by
      rw [← outputBase_after_generate _ hopening] at hbase
      rw [report_generate, (result_write_of_clean hgenerate hbase fun u hu => (hunits u hu).1).1,
        saidReport_of_encodes (encodes_writtenLines.mpr (List.forall_mem_map.mpr fun u hu =>
          (hunits u hu).2))]
    refine ⟨rendered, base, hgenerate, hbase, hdry, hdry ▸ rfl, ?_⟩
    rw [hwritten, writtenLines, List.map_map, List.length_map]
    rfl
  fails := by
    intro hfailed
    constructor
    · intro hzero
      obtain ⟨rendered, base, hgenerate, -, hunits⟩ :=
        (exitCode_generate_eq_zero_iff stdout project output w).mp hzero
      refine hfailed ((exitCode_dryRun_eq_zero_iff stdout project output w).mpr ?_)
      exact ⟨rendered, hgenerate, fun u hu => Location.encodes_of_child (hunits u hu).2⟩
    · cases hgenerate : Session.generate.result (sessionOn w project) with
      | error f =>
          refine .inl ?_
          rw [report_generate, report_dryRun, result_write, hgenerate]
          rfl
      | ok rendered =>
          refine .inr ⟨rendered, rfl, ?_⟩
          by_contra hall
          refine hfailed ((exitCode_dryRun_eq_zero_iff stdout project output w).mpr ?_)
          exact ⟨rendered, hgenerate, by simpa only [not_exists, not_and, not_not] using hall⟩
  failed := exitCode_of_failed stdout project output w
  goes_iff := exitCode_generate_eq_zero_iff stdout project output w
  tree := by
    rw [workspace_dryRun]
    exact tree_after_generate _
  kept := by
    obtain ⟨settings, store, log, loaded, hloaded, hafter⟩ := after_generate (sessionOn w project)
    rw [workspace_dryRun, workspace_generate, kept_after_write]
    refine ⟨rfl, loaded, hloaded, ?_⟩
    rw [hafter]
    rfl

/-- A project whose directory of sources is a lone surrogate. -/
def loneSurrogate : Workspace where
  tree :=
    { files :=
        [(.ofText "proj/config/settings.py", ⟨"", .settings (.bindings
            [(Setting.sourceRoot.name,
              .literal (.text (String.singleton (Text.ofCodePoint 0xD800))))])⟩),
          (.ofText "proj/entities/a.py", ⟨"", .entities [auditedClass "A" "a"]⟩)] }
  keepsCode := true

/-- The dry run cannot say the path of the unit, and the generation cannot make its directory:
the two fail with different messages.  The dry run has kept the code of both modules by then. -/
theorem dryRun_loneSurrogate :
    (runOn .strict (.generate "proj" none true) loneSurrogate).2.exitCode = 1 ∧
      (runOn .strict (.generate "proj" none true) loneSurrogate).2.err =
        "[ERROR] Generation failed: 'utf-8' codec can't encode character '\\ud800' " ++
          "in position 15: surrogates not allowed\n" ∧
      (runOn .strict (.generate "proj" none false) loneSurrogate).2.exitCode = 1 ∧
      (runOn .strict (.generate "proj" none false) loneSurrogate).2.err =
        "[ERROR] Generation failed: 'utf-8' codec can't encode character '\\ud800' " ++
          "in position 5: surrogates not allowed\n" ∧
      (runOn .strict (.generate "proj" none true) loneSurrogate).1.kept =
        [.ofText "proj/config/settings.py", .ofText "proj/entities/a.py"] := by
  refine ⟨?_, ?_, ?_, ?_, ?_⟩
  · decide +kernel
  · decide +kernel
  · decide +kernel
  · decide +kernel
  · decide +kernel

end Command

end AuditAspects
