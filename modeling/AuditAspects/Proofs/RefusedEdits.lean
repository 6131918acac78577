import AuditAspects.Proofs.HeldMembers

/-!
# Refused edits

An edit offers its members one by one and stops at the first whose name is taken.

*What is refused.*  A bundle is merged without fault exactly if the names of its fields are
free and distinct, and so are those of its methods (`fit_bundle_iff`).

*What is left.*  A refused edit has taken in the members before the refused one
(`after_stepIn`).  An edit of one member therefore leaves the draft as it was, and a merge
does so exactly if the first member of the bundle is refused.  `refusalOutcome` says so
after every history; `merge_freeAndTaken` is a merge that stops half way.
-/

namespace AuditAspects

/-! ## The members that are taken in -/

section Offering

variable {held ms : List Member}

/-- The offered members before the first whose name is taken. -/
def takenOf (held : List Member) : List Member → List Member
  | [] => []
  | m :: ms => if m.Clashes held then [] else m :: takenOf (held ++ [m]) ms

/-- What is taken of an offer is held last. -/
theorem offer_eq_append_takenOf : offer held ms = held ++ takenOf held ms := by
  induction ms generalizing held with
  | nil => exact (List.append_nil held).symm
  | cons m ms ih =>
      rw [offer, takenOf]
      by_cases clash : m.Clashes held
      · rw [if_pos clash, if_pos clash, List.append_nil]
      · rw [if_neg clash, if_neg clash, ih, List.append_assoc, List.singleton_append]

/-- Behind the members that are taken in stands the one that is refused. -/
theorem exists_refused (h : ¬Fit held ms) :
    ∃ m rest, ms = takenOf held ms ++ m :: rest ∧ m.Clashes (held ++ takenOf held ms) := by
  induction ms generalizing held with
  | nil => exact absurd trivial h
  | cons m ms ih =>
      rw [takenOf]
      by_cases clash : m.Clashes held
      · rw [if_pos clash]
        exact ⟨m, ms, rfl, by rwa [List.append_nil]⟩
      · obtain ⟨refused, rest, hms, hclash⟩ := ih fun hfit => h ⟨clash, hfit⟩
        rw [if_neg clash]
        refine ⟨refused, rest, congrArg (m :: ·) hms, ?_⟩
        rwa [List.append_cons]

/-- An offer that is refused takes in nothing exactly if its first member is refused. -/
theorem takenOf_eq_nil_iff (h : ¬Fit held ms) :
    takenOf held ms = [] ↔ ∃ m rest, ms = m :: rest ∧ m.Clashes held := by
  constructor
  · intro hnil
    obtain ⟨m, rest, hms, hclash⟩ := exists_refused h
    rw [hnil, List.append_nil] at hclash
    rw [hnil, List.nil_append] at hms
    exact ⟨m, rest, hms, hclash⟩
  · rintro ⟨m, rest, rfl, hclash⟩
    rw [takenOf, if_pos hclash]

/-! ## Free and distinct names -/

section Kinds

variable {α : Type} {wrap : α → Member} {kind? : Member → Option α} (name : α → String)

/-- Members of one kind are all taken in if their names are distinct and free. -/
theorem fit_map_iff (hkind : ∀ x, kind? (wrap x) = some x)
    (hclash : ∀ held x, (wrap x).Clashes held ↔ ∃ y ∈ held.filterMap kind?, name y = name x)
    {xs : List α} :
    Fit held (xs.map wrap) ↔
      (xs.map name).Nodup ∧ ∀ x ∈ xs, ¬∃ y ∈ held.filterMap kind?, name y = name x := by
  induction xs generalizing held with
  | nil => simp [Fit]
  | cons x xs ih =>
      have hheld : (held ++ [wrap x]).filterMap kind? = held.filterMap kind? ++ [x] := by
        rw [Draft.filterMap_append_singleton, hkind, Option.toList_some]
      rw [List.map_cons, Fit, hclash, ih, hheld, List.map_cons, List.nodup_cons,
        List.forall_mem_cons]
      constructor
      · rintro ⟨hfree, hnodup, hrest⟩
        refine ⟨⟨?_, hnodup⟩, hfree, ?_⟩
        · intro hmem
          obtain ⟨y, hy, hname⟩ := List.mem_map.mp hmem
          exact hrest y hy ⟨x, by simp, hname.symm⟩
        · rintro y hy ⟨z, hz, hname⟩
          exact hrest y hy ⟨z, List.mem_append_left _ hz, hname⟩
      · rintro ⟨⟨hnew, hnodup⟩, hfree, hrest⟩
        refine ⟨hfree, hnodup, ?_⟩
        rintro y hy ⟨z, hz, hname⟩
        rcases List.mem_append.mp hz with hz | hz
        · exact hrest y hy ⟨z, hz, hname⟩
        · rw [List.mem_singleton.mp hz] at hname
          exact hnew (List.mem_map.mpr ⟨y, hy, hname.symm⟩)

end Kinds

/-- A bundle is taken in as a whole exactly if its field names are distinct and free, and
its method names are. -/
theorem fit_bundle_iff {b : Bundle} :
    Fit held (Draft.Edit.bundle b).members ↔
      ((b.fields.map Field.name).Nodup ∧
        ∀ f ∈ b.fields, ¬∃ g ∈ held.filterMap Member.field?, g.name = f.name) ∧
      (b.methods.map Method.name).Nodup ∧
        ∀ f ∈ b.methods, ¬∃ g ∈ held.filterMap Member.method?, g.name = f.name := by
  have hfields : Fit held (b.fields.map .field) ↔ _ :=
    fit_map_iff Field.name (fun _ => rfl) (fun _ _ => Iff.rfl)
  have hmethods : Fit (held ++ b.fields.map .field) (b.methods.map .method) ↔ _ :=
    fit_map_iff Method.name (fun _ => rfl) (fun _ _ => Iff.rfl)
  have hmark : ∀ held, Fit held [.mark b.listener] := fun _ => ⟨fun clash => clash, trivial⟩
  have hnone : (b.fields.map Member.field).filterMap Member.method? = [] := by
    simp [List.filterMap_map, Function.comp_def, Member.method?]
  rw [Draft.Edit.members, fit_append_iff, fit_append_iff, hfields, hmethods,
    List.filterMap_append, hnone, List.append_nil, and_iff_left (hmark _)]

end Offering

namespace Draft

variable {o : ClaimOrder} {d d' : Draft} {held : List Member}

/-! ## What is left -/

/-- The draft with one more member, whatever its name. -/
def takeIn (o : ClaimOrder) (d : Draft) : Member → Draft
  | .field f =>
      { d with fields := d.fields ++ [f],
               names := d.names.addImports (o.arrange d.held f.referencedTypes) }
  | .method m =>
      { d with methods := d.methods ++ [m],
               names := d.names.addImports (o.arrange d.held m.referencedTypes) }
  | .mark a =>
      { d with annotations := d.annotations ++ [a],
               names := d.names.addImports (o.arrange d.held a.referencedTypes) }

/-- The draft with several more members, whatever their names. -/
def takeAllIn (o : ClaimOrder) (d : Draft) (ms : List Member) : Draft := ms.foldl (takeIn o) d

/-- Two drafts of one unit. -/
structure SameUnit (d d' : Draft) : Prop where
  declaredBy_eq : d'.declaredBy = d.declaredBy
  aspect_eq : d'.aspect = d.aspect
  governor_eq : d'.governor = d.governor

theorem Takes.sameUnit (h : Takes d d') : SameUnit d d' := by
  cases h with
  | field => exact ⟨rfl, rfl, rfl⟩
  | method => exact ⟨rfl, rfl, rfl⟩
  | mark => exact ⟨rfl, rfl, rfl⟩

theorem TakesAll.sameUnit (h : TakesAll d d') : SameUnit d d' := by
  refine takesAll_invariant (P := SameUnit d) ?_ h ⟨rfl, rfl, rfl⟩
  rintro e e' htakes ⟨hdeclaredBy, haspect, hgovernor⟩
  obtain ⟨h1, h2, h3⟩ := htakes.sameUnit
  exact ⟨h1.trans hdeclaredBy, h2.trans haspect, h3.trans hgovernor⟩

theorem Holds.takeIn (h : Holds o d held) (m : Member) :
    Holds o (d.takeIn o m) (held ++ [m]) := by
  cases m with
  | field f => exact h.add _ rfl rfl rfl (List.append_nil _).symm (List.append_nil _).symm rfl
  | method f => exact h.add _ rfl rfl (List.append_nil _).symm rfl (List.append_nil _).symm rfl
  | mark a => exact h.add _ rfl rfl (List.append_nil _).symm (List.append_nil _).symm rfl rfl

theorem Holds.takeAllIn (h : Holds o d held) (ms : List Member) :
    Holds o (d.takeAllIn o ms) (held ++ ms) := by
  induction ms generalizing d held with
  | nil => rwa [List.append_nil]
  | cons m ms ih =>
      have hrest := ih (h.takeIn m)
      rwa [List.append_assoc, List.singleton_append] at hrest

theorem sameUnit_takeAllIn (o : ClaimOrder) (d : Draft) (ms : List Member) :
    SameUnit d (d.takeAllIn o ms) := by
  induction ms generalizing d with
  | nil => exact ⟨rfl, rfl, rfl⟩
  | cons m ms ih =>
      obtain ⟨h1, h2, h3⟩ := ih (d.takeIn o m)
      cases m with
      | field f => exact ⟨h1, h2, h3⟩
      | method f => exact ⟨h1, h2, h3⟩
      | mark a => exact ⟨h1, h2, h3⟩

/-- The unit and the held members determine a draft. -/
theorem Holds.ext (h : Holds o d held) (h' : Holds o d' held) (hunit : SameUnit d d') :
    d' = d := by
  obtain ⟨hdeclaredBy, haspect, hgovernor⟩ := hunit
  have hfields : d'.fields = d.fields := h'.fields_eq.trans h.fields_eq.symm
  have hmethods : d'.methods = d.methods := h'.methods_eq.trans h.methods_eq.symm
  have hmarks : d'.annotations = d.annotations := h'.annotations_eq.trans h.annotations_eq.symm
  have hnames : d'.names = d.names := by
    rw [h'.names_eq, h.names_eq, haspect, hgovernor]
  cases d
  cases d'
  rw [mk.injEq]
  exact ⟨hdeclaredBy, haspect, hgovernor, hfields, hmethods, hmarks, hnames⟩

/-- An edit leaves the draft with the members that are taken in. -/
theorem after_stepIn (h : Holds o d held) (e : Edit) :
    (e.stepIn o).after d = d.takeAllIn o (takenOf held e.members) := by
  have hafter : Holds o ((e.stepIn o).after d) (held ++ takenOf held e.members) := by
    rw [← offer_eq_append_takenOf]
    exact (offers_stepIn e d held h).1
  have hunit := (takesAll_stepIn o e d).sameUnit
  have hunit' := sameUnit_takeAllIn o d (takenOf held e.members)
  refine (h.takeAllIn _).ext hafter ⟨?_, ?_, ?_⟩
  · rw [hunit.declaredBy_eq, hunit'.declaredBy_eq]
  · rw [hunit.aspect_eq, hunit'.aspect_eq]
  · rw [hunit.governor_eq, hunit'.governor_eq]

/-! ## Refusals -/

theorem refused_iff (h : Holds o d held) (e : Edit) :
    (∃ f, (e.stepIn o).result d = .error f) ↔ ¬Fit held e.members := by
  rcases (offers_stepIn e d held h).2 with ⟨hfit, hok⟩ | ⟨hfit, f, herror, -⟩
  · simp [hok, hfit]
  · simp [herror, hfit]

theorem kind_of_refused (h : Holds o d held) {e : Edit} {f : Fault}
    (hf : (e.stepIn o).result d = .error f) : f.kind = .value := by
  rcases (offers_stepIn e d held h).2 with ⟨-, hok⟩ | ⟨-, g, herror, hkind⟩
  · rw [hok] at hf
    cases hf
  · rw [herror] at hf
    cases hf
    exact hkind

/-- Taking in members changes a draft unless there are none. -/
theorem takeAllIn_eq_self_iff (h : Holds o d held) {ms : List Member} :
    d.takeAllIn o ms = d ↔ ms = [] := by
  constructor
  · intro heq
    have hlength : (held ++ ms).length = held.length := by
      rw [← (h.takeAllIn ms).held_eq, heq, h.held_eq]
    rwa [List.length_append, Nat.add_eq_left, List.length_eq_zero_iff] at hlength
  · rintro rfl
    rfl

/-- Only a bundle offers more than one member. -/
theorem Edit.length_members_le (e : Edit) (h : ∀ b, e ≠ .bundle b) : e.members.length ≤ 1 := by
  cases e with
  | field f => exact Nat.le_refl 1
  | method m =>
      cases m with
      | none => exact Nat.zero_le 1
      | some m => exact Nat.le_refl 1
  | mark a => exact Nat.le_refl 1
  | bundle b => exact absurd rfl (h b)

/-- What an edit that is refused leaves behind. -/
structure RefusalOutcome (o : ClaimOrder) (d : Draft) (held : List Member) (e : Edit) : Prop where
  /-- The draft takes in the offered members before the first whose name is taken. -/
  after_eq : (e.stepIn o).after d = d.takeAllIn o (takenOf held e.members)
  /-- Every refusal is of one kind. -/
  kind_of_refused : ∀ f, (e.stepIn o).result d = .error f → f.kind = .value
  /-- An edit other than a merge leaves the draft as it was if it is refused. -/
  unchanged_of_single : (∀ b, e ≠ .bundle b) →
    ∀ f, (e.stepIn o).result d = .error f → (e.stepIn o).after d = d
  /-- A refused edit leaves the draft as it was exactly if the name of the first member that
  it offers is taken. -/
  unchanged_iff : ∀ f, (e.stepIn o).result d = .error f →
    ((e.stepIn o).after d = d ↔ ∃ m rest, e.members = m :: rest ∧ m.Clashes held)
  /-- A merge is refused exactly if two fields or two methods of the bundle share a name, or
  one of them has a name that the draft already holds. -/
  merge_refused_iff : ∀ b, e = .bundle b →
    ((∃ f, (e.stepIn o).result d = .error f) ↔
      (¬(b.fields.map Field.name).Nodup ∨ ∃ f ∈ b.fields, ∃ g ∈ d.fields, g.name = f.name) ∨
      (¬(b.methods.map Method.name).Nodup ∨ ∃ f ∈ b.methods, ∃ g ∈ d.methods, g.name = f.name))

/-- How an edit of a draft that holds some members ends. -/
theorem Holds.refusal (h : Holds o d held) (e : Edit) : RefusalOutcome o d held e := by
  have hnotfit : ∀ f, (e.stepIn o).result d = .error f → ¬Fit held e.members :=
    fun f hf => (refused_iff h e).mp ⟨f, hf⟩
  refine ⟨after_stepIn h e, fun f hf => kind_of_refused h hf, ?_, ?_, ?_⟩
  · intro hsingle f hf
    obtain ⟨m, rest, hmembers, -⟩ := exists_refused (hnotfit f hf)
    have hlength := e.length_members_le hsingle
    rw [hmembers, List.length_append, List.length_cons] at hlength
    rw [after_stepIn h, takeAllIn_eq_self_iff h]
    exact List.eq_nil_of_length_eq_zero (by omega)
  · intro f hf
    rw [after_stepIn h, takeAllIn_eq_self_iff h, takenOf_eq_nil_iff (hnotfit f hf)]
  · rintro b rfl
    rw [refused_iff h, fit_bundle_iff, h.fields_eq, h.methods_eq]
    simp only [not_and_or, not_forall, not_not, exists_prop]

/-- Every edit has this outcome after every history of edits. -/
theorem refusalOutcome (o : ClaimOrder) (declaredBy : String) (aspect governor : TypeName)
    (es : List Edit) (e : Edit) :
    RefusalOutcome o (applyAllIn o (start declaredBy aspect governor) es) (heldAfter es) e :=
  (holds_applyAllIn o declaredBy aspect governor es).refusal e

/-- The draft with one field. -/
def oneField : Draft :=
  applyAllIn .source
    (start "" ⟨"com.example.domain.Person_Audit", by decide⟩
      ⟨"com.example.domain.Person", by decide⟩)
    [.field { name := "createdBy", type := .string }]

/-- A bundle with a field of a free name before a field of this name. -/
def freeAndTaken : Bundle :=
  ⟨[{ name := "born", type := .calendar }, { name := "createdBy", type := .string }], [],
    ⟨.entityListeners, []⟩⟩

/-- A merge that is refused at its second field keeps the first one and its import. -/
theorem merge_freeAndTaken :
    ((Edit.bundle freeAndTaken).stepIn .source).result oneField =
        .error (.fieldDeclared "createdBy" oneField.aspect) ∧
      (Fault.fieldDeclared "createdBy" oneField.aspect).kind = .value ∧
      oneField.fields.map Field.name = ["createdBy"] ∧
      oneField.build.imports = [] ∧
      (((Edit.bundle freeAndTaken).stepIn .source).after oneField).fields.map Field.name =
        ["createdBy", "born"] ∧
      (((Edit.bundle freeAndTaken).stepIn .source).after oneField).build.imports = [.calendar] :=
  ⟨rfl, by decide +kernel⟩

end Draft

end AuditAspects
