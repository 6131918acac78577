import AuditAspects.Command
import AuditAspects.Proofs.StepLaws
import Mathlib.Data.List.TakeWhile

/-!
# Lines that are said

What takes the sequences that control a terminal out of a text takes no lone surrogate out of
it.  So a text can be put out exactly if it can be encoded (`Console.fault?_eq_none_iff`).
Lines are said up to the first that cannot be (`result_say`, `after_say`), and an output that
takes every text takes all lines.

What a command says there it says on every output that can encode it, and it does the same
(`runOn_of_encodes`).
-/

namespace AuditAspects

open Text (Encoding)

/-! ## Texts that can be put out -/

theorem Text.isSurrogate_of_lt {c : Char} (h : c.toNat < surrogateDistance) :
    isSurrogate c = false := by
  rw [isSurrogate, Bool.and_eq_false_iff]
  exact .inl (decide_eq_false (Nat.not_le.mpr h))

/-- Every encoding takes what is no lone surrogate. -/
theorem Text.Encoding.takes_of_not_surrogate {c : Char} (h : isSurrogate c = false)
    (e : Encoding) : e.takes c = true := by
  cases e <;> simp [takes, h]

theorem Text.not_surrogate_of_isDigit {c : Char} (h : c.isDigit = true) :
    isSurrogate c = false := by
  have hlast : c.val ≤ '9'.val := of_decide_eq_true (Bool.and_eq_true_iff.mp h).2
  exact isSurrogate_of_lt (Nat.lt_of_le_of_lt hlast (by decide))

theorem Text.not_surrogate_of_isAlpha {c : Char} (h : c.isAlpha = true) :
    isSurrogate c = false := by
  refine isSurrogate_of_lt ?_
  rcases Bool.or_eq_true_iff.mp h with hupper | hlower
  · have hlast : c.val ≤ 'Z'.val := (of_decide_eq_true hupper).2
    exact Nat.lt_of_le_of_lt hlast (by decide)
  · have hlast : c.val ≤ 'z'.val := of_decide_eq_true (Bool.and_eq_true_iff.mp hlower).2
    exact Nat.lt_of_le_of_lt hlast (by decide)

/-- A number can be encoded. -/
theorem Text.Encoding.encodes_toString (e : Encoding) (n : Nat) : e.Encodes (toString n) := by
  intro c hc
  have hdigits : toString n = String.ofList (Nat.toDigits 10 n) := rfl
  rw [hdigits, String.toList_ofList] at hc
  have hdigit := Nat.isDigit_of_mem_toDigits (by decide) (by decide) hc
  exact takes_of_not_surrogate (not_surrogate_of_isDigit hdigit) e

namespace Console

theorem not_surrogate_of_isSequenceChar {c : Char} (h : isSequenceChar c = true) :
    Text.isSurrogate c = false := by
  rw [isSequenceChar, Bool.or_eq_true, Bool.or_eq_true] at h
  rcases h with (h | h) | h
  · rw [of_decide_eq_true h]
    decide
  · rw [of_decide_eq_true h]
    decide
  · exact Text.not_surrogate_of_isDigit h

/-- No lone surrogate is taken out with a sequence. -/
theorem takes_dropSequencesFrom_iff (e : Encoding) {held : List Char} {cs : List Char}
    (hheld : ∀ c ∈ held, Text.isSurrogate c = false) :
    (∀ c ∈ dropSequencesFrom held cs, e.takes c = true) ↔ ∀ c ∈ cs, e.takes c = true := by
  have htaken : ∀ {c : Char}, Text.isSurrogate c = false → e.takes c = true :=
    fun h => Encoding.takes_of_not_surrogate h e
  have hreverse : ∀ {cs : List Char}, (∀ c ∈ cs, Text.isSurrogate c = false) →
      ∀ c ∈ cs.reverse, e.takes c = true := fun h c hc => htaken (h c (List.mem_reverse.mp hc))
  fun_induction dropSequencesFrom held cs with
  | case1 held => exact iff_of_true (hreverse hheld) fun _ hc => absurd hc List.not_mem_nil
  | case2 held c cs h ih =>
      have hc : Text.isSurrogate c = false := by
        rw [Bool.and_eq_true] at h
        rw [of_decide_eq_true h.2]
        decide
      refine (ih (List.forall_mem_cons.mpr ⟨hc, hheld⟩)).trans ?_
      rw [List.forall_mem_cons]
      exact (and_iff_right (htaken hc)).symm
  | case3 held c cs _ h ih =>
      rw [Bool.and_eq_true] at h
      have hc := not_surrogate_of_isSequenceChar h.2
      refine (ih (List.forall_mem_cons.mpr ⟨hc, hheld⟩)).trans ?_
      rw [List.forall_mem_cons]
      exact (and_iff_right (htaken hc)).symm
  | case4 held c cs _ _ h ih =>
      rw [Bool.and_eq_true] at h
      refine (ih fun _ hc => absurd hc List.not_mem_nil).trans ?_
      rw [List.forall_mem_cons]
      exact (and_iff_right (htaken (Text.not_surrogate_of_isAlpha h.2))).symm
  | case5 held cs _ _ _ ih =>
      have hescape : Text.isSurrogate escape = false := by decide
      have hrest := ih (List.forall_mem_singleton.mpr hescape)
      rw [List.forall_mem_append, List.forall_mem_cons]
      exact and_congr (iff_of_true (hreverse hheld) (htaken hescape)) hrest
  | case6 held c cs _ _ _ _ ih =>
      have hrest := ih fun _ hc => absurd hc List.not_mem_nil
      rw [List.forall_mem_append, List.forall_mem_cons, List.forall_mem_cons]
      exact (and_iff_right (hreverse hheld)).trans (and_congr_right fun _ => hrest)

/-- A text can be put out exactly if it can be encoded. -/
theorem fault?_eq_none_iff {e : Encoding} {s : String} : fault? e s = none ↔ e.Encodes s := by
  rw [fault?, Fault.ofEncoding?, Option.map_eq_none_iff, Encoding.refused?_eq_none_iff,
    Encoding.Encodes, shown, String.toList_ofList]
  exact takes_dropSequencesFrom_iff e fun _ hc => absurd hc List.not_mem_nil

end Console

namespace Command

open Step

/-! ## Saying lines -/

variable {stdout : Encoding} {lines said : List String}

/-- What keeps a line from being said. -/
def lineFault? (stdout : Encoding) (line : String) : Option Fault :=
  Console.fault? stdout (line ++ "\n")

theorem encodes_lineFeed : stdout.Encodes "\n" := by
  cases stdout <;> decide

/-- A line can be said exactly if it can be encoded. -/
theorem lineFault?_eq_none_iff {line : String} :
    lineFault? stdout line = none ↔ stdout.Encodes line := by
  rw [lineFault?, Console.fault?_eq_none_iff, Encoding.encodes_append]
  exact and_iff_left encodes_lineFeed

/-- Lines are said unless one of them cannot be. -/
theorem result_say (stdout : Encoding) (lines said : List String) :
    (say stdout lines).result said =
      match lines.findSome? (lineFault? stdout) with
      | none => .ok ()
      | some f => .error f := by
  induction lines generalizing said with
  | nil => rfl
  | cons line lines ih =>
      rw [say, List.findSome?_cons, lineFault?]
      cases Console.fault? stdout (line ++ "\n") with
      | some f => rfl
      | none => exact ih (said ++ [line])

/-- What has been said then is the lines before. -/
theorem after_say (stdout : Encoding) (lines said : List String) :
    (say stdout lines).after said =
      said ++ lines.takeWhile fun line => (lineFault? stdout line).isNone := by
  induction lines generalizing said with
  | nil => exact (List.append_nil said).symm
  | cons line lines ih =>
      rw [say, List.takeWhile_cons, lineFault?]
      cases Console.fault? stdout (line ++ "\n") with
      | some f => exact (List.append_nil said).symm
      | none =>
          refine (ih (said ++ [line])).trans ?_
          rw [List.append_assoc]
          rfl

/-- Lines are all said exactly if each of them can be encoded. -/
theorem result_say_eq_ok_iff :
    (say stdout lines).result said = .ok () ↔ ∀ line ∈ lines, stdout.Encodes line := by
  have hlines : lines.findSome? (lineFault? stdout) = none ↔
      ∀ line ∈ lines, stdout.Encodes line := by
    simp only [List.findSome?_eq_none_iff, lineFault?_eq_none_iff]
  rw [result_say, ← hlines]
  cases lines.findSome? (lineFault? stdout) with
  | none => exact iff_of_true rfl rfl
  | some f => exact iff_of_false (fun h => nomatch h) fun h => nomatch h

theorem after_say_of_encodes (h : ∀ line ∈ lines, stdout.Encodes line) :
    (say stdout lines).after said = said ++ lines := by
  have hall : ∀ line ∈ lines, (lineFault? stdout line).isNone = true := fun line hline => by
    rw [lineFault?_eq_none_iff.mpr (h line hline)]
    rfl
  rw [after_say, List.takeWhile_eq_self_iff.mpr hall]

@[simp] theorem result_say_lenient : (say .lenient lines).result said = .ok () :=
  result_say_eq_ok_iff.mpr fun _ _ _ _ => rfl

@[simp] theorem after_say_lenient : (say .lenient lines).after said = said ++ lines :=
  after_say_of_encodes fun _ _ _ _ => rfl

/-- What is said is reported, with the fault that ended it. -/
theorem reportOf_eq (x : Saying) :
    reportOf x =
      match x.result [] with
      | .ok () => .ofLines (x.after [])
      | .error f => .ended (x.after []) f := by
  rw [reportOf, result, after]
  cases x.run [] <;> rfl

/-! ## What is said on other outputs -/

/-- A step says what another says, as far as that can be encoded. -/
structure SaysAs {α : Type} (stdout : Encoding) (x y : Step (List String) α) : Prop where
  /-- What has been said stays said. -/
  stays : ∀ said, said <+: y.after said
  /-- Where all lines can be encoded, both steps say the same and end alike. -/
  same : ∀ said, (∀ line ∈ y.after said, stdout.Encodes line) →
    x.result said = y.result said ∧ x.after said = y.after said

section SaysAs

variable {α β : Type} {x y : Step (List String) α} {k l : α → Step (List String) β}

theorem saysAs_ofExcept (e : Except Fault α) :
    SaysAs stdout (Step.ofExcept e : Step (List String) α) (Step.ofExcept e) where
  stays said := ⟨[], by rw [after_ofExcept, List.append_nil]⟩
  same _ _ := ⟨rfl, rfl⟩

theorem saysAs_say (lines : List String) :
    SaysAs stdout (say stdout lines) (say .lenient lines) where
  stays said := by
    rw [after_say_lenient]
    exact List.prefix_append said lines
  same said h := by
    rw [after_say_lenient] at h ⊢
    have hlines : ∀ line ∈ lines, stdout.Encodes line :=
      fun line hline => h line (List.mem_append_right _ hline)
    rw [result_say_lenient]
    exact ⟨result_say_eq_ok_iff.mpr hlines, after_say_of_encodes hlines⟩

/-- A sequence says what another says, if their steps do. -/
theorem SaysAs.bind (hx : SaysAs stdout x y) (hk : ∀ a, SaysAs stdout (k a) (l a)) :
    SaysAs stdout (x >>= k) (y >>= l) where
  stays said := by
    rw [after_bind]
    split
    · exact (hx.stays said).trans ((hk _).stays _)
    · exact hx.stays said
  same said h := by
    cases hy : y.result said with
    | error f =>
        rw [after_bind_of_error l hy] at h ⊢
        obtain ⟨hresult, hafter⟩ := hx.same said h
        rw [hy] at hresult
        rw [result_bind_of_error k hresult, result_bind_of_error l hy,
          after_bind_of_error k hresult]
        exact ⟨rfl, hafter⟩
    | ok a =>
        rw [after_bind_of_ok l hy] at h ⊢
        have hstart := (hk a).stays (y.after said)
        obtain ⟨hresult, hafter⟩ := hx.same said fun line hline => h line (hstart.subset hline)
        rw [hy] at hresult
        rw [result_bind_of_ok k hresult, result_bind_of_ok l hy, after_bind_of_ok k hresult,
          hafter]
        exact (hk a).same _ h

end SaysAs

section Listings

variable (stdout) (verbose : Bool) (s : Session)

theorem saysAs_sayEntity (name : String) (c : Contract) :
    SaysAs stdout (sayEntity stdout verbose s name c) (sayEntity .lenient verbose s name c) := by
  refine (saysAs_say _).bind fun _ => ?_
  cases verbose with
  | false => exact saysAs_ofExcept (.ok ())
  | true =>
      refine (saysAs_ofExcept _).bind fun lines => (saysAs_say lines).bind fun _ => ?_
      exact (saysAs_ofExcept _).bind fun lines => saysAs_say lines

theorem saysAs_sayEntities (es : List (String × Contract)) :
    SaysAs stdout (sayEntities stdout verbose s es) (sayEntities .lenient verbose s es) := by
  induction es with
  | nil => exact saysAs_ofExcept (.ok ())
  | cons e es ih => exact (saysAs_sayEntity stdout verbose s e.1 e.2).bind fun _ => ih

theorem saysAs_sayList (es : List (String × Contract)) :
    SaysAs stdout (sayList stdout verbose s es) (sayList .lenient verbose s es) := by
  cases es with
  | nil => exact saysAs_say _
  | cons e es =>
      exact (saysAs_say (listHeader (e :: es).length)).bind fun _ =>
        saysAs_sayEntities stdout verbose s _

end Listings

/-- Lines can be encoded together exactly if each can be. -/
theorem encodes_out_ofLines {lines : List String} :
    stdout.Encodes (Report.ofLines lines).out ↔ ∀ line ∈ lines, stdout.Encodes line := by
  rw [Report.ofLines]
  induction lines with
  | nil =>
      refine iff_of_true ?_ fun _ h => absurd h List.not_mem_nil
      cases stdout <;> decide
  | cons line lines ih =>
      rw [List.map_cons, String.join_cons, Encoding.encodes_append, Encoding.encodes_append,
        List.forall_mem_cons, and_iff_left encodes_lineFeed]
      exact and_congr_right fun _ => ih

/-- A report of what is said can be encoded exactly if the lines can be. -/
theorem encodes_out_reportOf {y : Saying} :
    stdout.Encodes (reportOf y).out ↔ ∀ line ∈ y.after [], stdout.Encodes line := by
  have hout : (reportOf y).out = (Report.ofLines (y.after [])).out := by
    rw [reportOf_eq]
    cases y.result [] <;> rfl
  rw [hout, encodes_out_ofLines]

theorem SaysAs.reportOf_eq {x y : Saying} (hx : SaysAs stdout x y)
    (h : stdout.Encodes (reportOf y).out) : reportOf x = reportOf y := by
  obtain ⟨hresult, hafter⟩ := hx.same [] (encodes_out_reportOf.mp h)
  rw [Command.reportOf_eq, Command.reportOf_eq, hresult, hafter]

theorem run_say_of_encodes (h : ∀ line ∈ lines, stdout.Encodes line) :
    (say stdout lines).run said = .ok () (said ++ lines) := by
  have hresult : (say stdout lines).result said = .ok () := result_say_eq_ok_iff.mpr h
  have hafter : (say stdout lines).after said = said ++ lines := after_say_of_encodes h
  rw [result] at hresult
  rw [after] at hafter
  cases hrun : (say stdout lines).run said with
  | ok a t =>
      rw [hrun] at hafter
      exact congrArg (EStateM.Result.ok ()) hafter
  | error f t =>
      rw [hrun] at hresult
      cases hresult

@[simp] theorem run_say_lenient : (say .lenient lines).run said = .ok () (said ++ lines) :=
  run_say_of_encodes fun _ _ _ _ => rfl

/-! ## Commands on other outputs -/

theorem runInit_of_encodes {name path : String} {w : Workspace}
    (h : stdout.Encodes (runInit .lenient name path w).2.out) :
    runInit stdout name path w = runInit .lenient name path w := by
  simp only [runInit] at h ⊢
  split at h
  next hthere => rw [if_pos hthere, if_pos hthere]
  next hfree =>
    rw [if_neg hfree, if_neg hfree]
    cases hplace : ((Location.ofText path).child name).fault? with
    | some f =>
        simp only [hplace, Console.fault?_lenient] at h ⊢
        have hopening := lineFault?_eq_none_iff.mpr
          (encodes_out_ofLines.mp h _ (List.mem_singleton_self _))
        rw [lineFault?] at hopening
        simp only [hopening]
    | none =>
        simp only [hplace, Console.fault?_lenient] at h ⊢
        have hsaid := (saysAs_say _).reportOf_eq h
        have hlines := encodes_out_reportOf.mp h
        rw [after_say_lenient, List.nil_append] at hlines
        have hopening := lineFault?_eq_none_iff.mpr (hlines _ List.mem_cons_self)
        rw [lineFault?] at hopening
        simp only [hopening, hsaid]

section Sessions

variable {s : Session}

theorem runDryRun_of_encodes (h : stdout.Encodes (runDryRun .lenient s).2.out) :
    runDryRun stdout s = runDryRun .lenient s := by
  rw [runDryRun] at h ⊢
  rw [runDryRun]
  cases hrun : Session.generate.run s with
  | error f t => rfl
  | ok rendered t =>
      simp only [hrun, run_say_lenient] at h ⊢
      have hlines : ∀ line ∈ dryRunLines rendered, stdout.Encodes line :=
        encodes_out_ofLines.mp h
      rw [run_say_of_encodes hlines]

theorem runGenerate_of_encodes {output : Option String}
    (h : stdout.Encodes (runGenerate .lenient output s).2.out) :
    runGenerate stdout output s = runGenerate .lenient output s := by
  rw [runGenerate] at h ⊢
  rw [runGenerate]
  cases hrun : (Session.write (outputPlace output)).run s with
  | error f t => rfl
  | ok written t =>
      simp only [hrun] at h ⊢
      rw [(saysAs_say (writtenLines written)).reportOf_eq h]

theorem runShow_of_encodes {entity : String}
    (h : stdout.Encodes (runShow .lenient entity s).2.out) :
    runShow stdout entity s = runShow .lenient entity s := by
  rw [runShow] at h ⊢
  rw [runShow]
  cases hrun : (findUnit entity).run s with
  | error f t => rfl
  | ok found t =>
      cases found with
      | error text => rfl
      | ok source =>
          simp only [hrun, printed, Console.fault?_lenient] at h ⊢
          rw [Console.fault?_eq_none_iff.mpr h]

theorem runList_of_encodes {verbose : Bool}
    (h : stdout.Encodes (runList .lenient verbose s).2.out) :
    runList stdout verbose s = runList .lenient verbose s := by
  rw [runList] at h ⊢
  rw [runList]
  cases hrun : Session.scan.run s with
  | error f t => rfl
  | ok es t =>
      simp only [hrun] at h ⊢
      rw [(saysAs_sayList stdout verbose t es).reportOf_eq h]

end Sessions

theorem inProject_of_encodes {project : String} {run run' : Session → Session × Report}
    {w : Workspace} (hsame : ∀ s, stdout.Encodes (run s).2.out → run' s = run s)
    (h : stdout.Encodes (inProject project run w).2.out) :
    inProject project run' w = inProject project run w := by
  have hrun := hsame (.start w (.ofText project)) h
  rw [inProject, inProject, hrun]

/-- A command does and says the same on every output that can encode what it says. -/
theorem runOn_of_encodes {c : Command} {w : Workspace} (h : stdout.Encodes (run c w).2.out) :
    runOn stdout c w = run c w := by
  rw [run] at h ⊢
  rcases c with ⟨name, path⟩ | ⟨project, output, _ | _⟩ | ⟨entity, project⟩ | ⟨project, verbose⟩
  all_goals
    rw [runOn] at h ⊢
    rw [runOn]
  · exact runInit_of_encodes h
  · exact inProject_of_encodes (fun _ => runGenerate_of_encodes) h
  · exact inProject_of_encodes (fun _ => runDryRun_of_encodes) h
  · exact inProject_of_encodes (fun _ => runShow_of_encodes) h
  · exact inProject_of_encodes (fun _ => runList_of_encodes) h

end Command

end AuditAspects
