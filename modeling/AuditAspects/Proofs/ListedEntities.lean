import AuditAspects.Proofs.SaidLines
import AuditAspects.Proofs.ShownEntity

/-!
# Listing entities

`list` scans a project and says its entities in the order of their names (`report_list`).
Without details it says one line for each, and nothing can go wrong any more
(`report_list_names`).  The details of an entity are the settings of its configuration and
its methods.  A listing with details goes through exactly if all of them can be said
(`sayList_eq_ok_iff`), on an output that takes every text.
-/

namespace AuditAspects

namespace Command

open Session Step

/-- A listing reports its scan, and then what it says of the entities. -/
theorem report_list (project : String) (verbose : Bool) (w : Workspace) :
    (run (.list project verbose) w).2 =
      match scan.result (sessionOn w project) with
      | .error f => .ofFault f ("[ERROR] Failed to import: " ++ f.message)
      | .ok es => reportOf (sayList .lenient verbose (scan.after (sessionOn w project)) es) := by
  rw [run, runOn, inProject, runList, Step.result, Step.after, sessionOn]
  cases scan.run (.start w (.ofText project)) <;> rfl

/-! ## Names alone -/

/-- The line of an entity. -/
def nameLine (e : String × Contract) : String := "  - " ++ e.1

/-- Without details one line is said of each entity. -/
theorem sayEntities_names (s : Session) (es : List (String × Contract)) (lines : List String) :
    (sayEntities .lenient false s es).result lines = .ok () ∧
      (sayEntities .lenient false s es).after lines = lines ++ es.map nameLine := by
  induction es generalizing lines with
  | nil => exact ⟨rfl, (List.append_nil lines).symm⟩
  | cons e es ih =>
      have hsaid : (sayEntity .lenient false s e.1 e.2).result lines = .ok () ∧
          (sayEntity .lenient false s e.1 e.2).after lines = lines ++ [nameLine e] := by
        simp [sayEntity, nameLine]
      obtain ⟨hok, hafter⟩ := ih (lines ++ [nameLine e])
      rw [sayEntities, result_bind_of_ok _ hsaid.1, after_bind_of_ok _ hsaid.1, hsaid.2]
      exact ⟨hok, by rw [hafter, List.append_assoc]; rfl⟩

/-- A listing of entities says how many there are, and then each of them. -/
theorem sayList_of_ne_nil (verbose : Bool) (s : Session) {es : List (String × Contract)}
    (h : es ≠ []) :
    (sayList .lenient verbose s es).result [] =
        (sayEntities .lenient verbose s (sortEntities es)).result (listHeader es.length) ∧
      (sayList .lenient verbose s es).after [] =
        (sayEntities .lenient verbose s (sortEntities es)).after (listHeader es.length) := by
  have hheader : (say .lenient (listHeader es.length)).result [] = .ok () := result_say_lenient
  have hsaid : (say .lenient (listHeader es.length)).after [] = listHeader es.length := by
    rw [after_say_lenient, List.nil_append]
  cases es with
  | nil => exact absurd rfl h
  | cons e es =>
      have hresult := result_bind_of_ok
        (fun _ => sayEntities .lenient verbose s (sortEntities (e :: es))) hheader
      have hafter := after_bind_of_ok
        (fun _ => sayEntities .lenient verbose s (sortEntities (e :: es))) hheader
      rw [hsaid] at hresult hafter
      exact ⟨hresult, hafter⟩

/-- Without details, entities are listed in the order of their names. -/
theorem report_list_names {project : String} {w : Workspace} {es : List (String × Contract)}
    (h : scan.result (sessionOn w project) = .ok es) :
    (run (.list project false) w).2 =
      .ofLines (listHeader es.length ++
        if es = [] then ["  No audited entities found"] else (sortEntities es).map nameLine) := by
  rw [report_list, h]
  simp only [reportOf_eq]
  by_cases hnil : es = []
  · subst hnil
    have hsaid :
        (sayList .lenient false (scan.after (sessionOn w project)) []).result [] = .ok () :=
      result_say_lenient
    have hlines : (sayList .lenient false (scan.after (sessionOn w project)) []).after [] =
        [] ++ (listHeader 0 ++ ["  No audited entities found"]) := after_say_lenient
    rw [hsaid, hlines, List.nil_append, if_pos rfl, List.length_nil]
  · obtain ⟨hok, hafter⟩ := sayEntities_names (scan.after (sessionOn w project))
      (sortEntities es) (listHeader es.length)
    obtain ⟨hlist, hlistAfter⟩ :=
      sayList_of_ne_nil false (scan.after (sessionOn w project)) hnil
    rw [hok] at hlist
    rw [hafter] at hlistAfter
    simp only [hlist, hlistAfter, hnil, ↓reduceIte]

/-! ## Details -/

/-- All there is to say of an entity can be said. -/
structure Details (s : Session) (c : Contract) : Prop where
  /-- What is attached to it is a configuration, or at least gives no settings. -/
  settings : (∃ config, s.store.attached c = .proper config) ∨
    s.store.attached c = .foreign (.object [])
  /-- Its methods can be put in order, and all of them are texts. -/
  methods : ∃ vs, c.sortedMethods = .ok vs ∧ ∀ v ∈ vs, ∃ name, v = .text name

/-- The settings can be said of a configuration, or of an empty dictionary. -/
theorem exists_settingLines_iff {offered : Offered Config} :
    (∃ lines, settingLines offered = .ok lines) ↔
      (∃ config, offered = .proper config) ∨ offered = .foreign (.object []) := by
  cases offered with
  | proper config => exact iff_of_true ⟨_, rfl⟩ (.inl ⟨config, rfl⟩)
  | foreign v =>
      cases v with
      | object es => cases es <;> simp [settingLines]
      | _ => simp [settingLines]

/-- Values can be joined exactly if all are texts. -/
theorem exists_joinNames_iff (place : Nat) {vs : List Value} :
    (∃ names, joinNames place vs = .ok names) ↔ ∀ v ∈ vs, ∃ name, v = .text name := by
  induction vs generalizing place with
  | nil => exact iff_of_true ⟨[], rfl⟩ fun v hv => absurd hv List.not_mem_nil
  | cons v vs ih =>
      rw [List.forall_mem_cons, ← ih (place + 1)]
      cases v with
      | text name =>
          rw [joinNames]
          cases joinNames (place + 1) vs with
          | ok names => exact iff_of_true ⟨_, rfl⟩ ⟨⟨name, rfl⟩, names, rfl⟩
          | error f => simp [Except.map]
      | _ => simp [joinNames]

/-- The methods can be said exactly if they can be put in order and are texts. -/
theorem exists_methodLines_iff {c : Contract} :
    (∃ lines, methodLines c = .ok lines) ↔
      ∃ vs, c.sortedMethods = .ok vs ∧ ∀ v ∈ vs, ∃ name, v = .text name := by
  rw [methodLines]
  cases c.sortedMethods with
  | error f => simp [bind, Except.bind]
  | ok vs =>
      simp only [Except.ok.injEq, exists_eq_left', ← exists_joinNames_iff 0]
      cases vs with
      | nil => exact iff_of_true ⟨[], rfl⟩ ⟨[], rfl⟩
      | cons v vs =>
          cases hnames : joinNames 0 (v :: vs) with
          | ok names => simp [bind, Except.bind, hnames, pure, Except.pure]
          | error f => simp [bind, Except.bind, hnames]

/-- An entity can be said exactly if its details can, where these are asked for. -/
theorem sayEntity_eq_ok_iff {verbose : Bool} {s : Session} {name : String} {c : Contract}
    {lines : List String} :
    (sayEntity .lenient verbose s name c).result lines = .ok () ↔
      (verbose = true → Details s c) := by
  cases verbose with
  | false => exact iff_of_true (by simp [sayEntity]) fun h => nomatch h
  | true =>
      have hdetails : Details s c ↔ (∃ lines, settingLines (s.store.attached c) = .ok lines) ∧
          ∃ lines, methodLines c = .ok lines := by
        rw [exists_settingLines_iff, exists_methodLines_iff]
        exact ⟨fun h => ⟨h.settings, h.methods⟩, fun h => ⟨h.1, h.2⟩⟩
      simp only [hdetails, sayEntity, result_bind, result_say_lenient, after_say_lenient,
        result_ofExcept, after_ofExcept, ↓reduceIte, forall_const]
      cases settingLines (s.store.attached c) with
      | error f => simp
      | ok settings =>
          cases methodLines c with
          | error f => simp
          | ok methods => simp

/-- Entities can be said if each of them can. -/
theorem sayEntities_eq_ok_iff {verbose : Bool} {s : Session} {es : List (String × Contract)}
    {lines : List String} :
    (sayEntities .lenient verbose s es).result lines = .ok () ↔
      (verbose = true → ∀ e ∈ es, Details s e.2) := by
  induction es generalizing lines with
  | nil => exact iff_of_true rfl fun _ e he => absurd he List.not_mem_nil
  | cons e es ih =>
      rw [sayEntities, result_bind]
      cases hfirst : (sayEntity .lenient verbose s e.1 e.2).result lines with
      | error f =>
          refine iff_of_false (fun h => by cases h) fun h => ?_
          have hdetails : (sayEntity .lenient verbose s e.1 e.2).result lines = .ok () :=
            sayEntity_eq_ok_iff.mpr fun hverbose => h hverbose e List.mem_cons_self
          rw [hfirst] at hdetails
          cases hdetails
      | ok _ =>
          have hdetails := sayEntity_eq_ok_iff.mp hfirst
          simp only [ih, List.forall_mem_cons]
          exact ⟨fun h hverbose => ⟨hdetails hverbose, h hverbose⟩,
            fun h hverbose => (h hverbose).2⟩

/-- A listing goes through exactly if each entity can be said. -/
theorem sayList_eq_ok_iff {verbose : Bool} {s : Session} {es : List (String × Contract)} :
    (sayList .lenient verbose s es).result [] = .ok () ↔
      (verbose = true → ∀ e ∈ es, Details s e.2) := by
  by_cases hnil : es = []
  · subst hnil
    exact iff_of_true result_say_lenient fun _ e he => absurd he List.not_mem_nil
  · rw [(sayList_of_ne_nil verbose s hnil).1, sayEntities_eq_ok_iff]
    simp only [sortEntities, mem_sortBy]

end Command

end AuditAspects
