import AuditAspects.Proofs.AuditedUnit
import AuditAspects.Proofs.QualifiedNames
import AuditAspects.Proofs.StepLaws
import Mathlib.Data.List.Induction

/-!
# Independence of the order of claims

The types of one member come as a set, so the order in which they claim their names is open.
That order shows only where one member mentions two types of one simple name.

*Endings.*  Whether an edit is refused hangs on the members that are held and on nothing
else, so runs under two orders go side by side with all but the table of names the same
(`related_stepIn`).

*Names.*  If no member is ambiguous, the first claim of a simple name is the same in both
rows of claims (`ClaimOrder.find?_claims`), whatever clashes there are between members.
`orderFree` says so of whole histories, in which the bundles that productions return may be
merged.
-/

namespace AuditAspects

/-! ## Members without a clash of their own -/

/-- No two types that a member mentions share a simple name. -/
def Member.Unambiguous (m : Member) : Prop :=
  ∀ t ∈ m.referencedTypes, ∀ u ∈ m.referencedTypes, t.simpleName = u.simpleName → t = u

instance (m : Member) : Decidable m.Unambiguous :=
  inferInstanceAs (Decidable (∀ t ∈ m.referencedTypes, ∀ u ∈ m.referencedTypes,
    t.simpleName = u.simpleName → t = u))

namespace Draft.Edit

/-- An edit whose members are all unambiguous. -/
def Unambiguous (e : Edit) : Prop := ∀ m ∈ e.members, m.Unambiguous

instance (e : Edit) : Decidable e.Unambiguous :=
  inferInstanceAs (Decidable (∀ m ∈ e.members, m.Unambiguous))

/-- No member of a produced bundle mentions two types of one simple name. -/
theorem IsProduced.unambiguous {e : Edit} (h : e.IsProduced) : e.Unambiguous :=
  fun _ hm _ ht _ hu hsimple =>
    auditTypes_inj (h.mem_auditTypes hm ht) (h.mem_auditTypes hm hu) hsimple

end Draft.Edit

/-! ## The first claims -/

/-- Where at most one member of a list will do, it is found in any order. -/
theorem find?_congr_of_mem_iff {α : Type} {p : α → Bool} {xs ys : List α}
    (hmem : ∀ x, x ∈ xs ↔ x ∈ ys) (hone : ∀ x ∈ xs, ∀ y ∈ xs, p x → p y → x = y) :
    xs.find? p = ys.find? p := by
  cases hy : ys.find? p with
  | none =>
      rw [List.find?_eq_none]
      intro x hx
      exact List.find?_eq_none.mp hy x ((hmem x).mp hx)
  | some y =>
      have hys : y ∈ xs := (hmem y).mpr (List.mem_of_find?_eq_some hy)
      cases hx : xs.find? p with
      | none => exact absurd (List.find?_some hy) (List.find?_eq_none.mp hx y hys)
      | some x =>
          rw [hone x (List.mem_of_find?_eq_some hx) y hys (List.find?_some hx)
            (List.find?_some hy)]

namespace ClaimOrder

/-- The order from the last type to the first. -/
def reversed : ClaimOrder := ⟨fun _ types => types.reverse, List.mem_reverse⟩

variable (o o' : ClaimOrder)

/-- The order does not matter for which type of an unambiguous member has a simple name. -/
theorem find?_arrange {m : Member} (h : m.Unambiguous) (held : Nat) (simple : String) :
    (o.arrange held m.referencedTypes).find? (·.simpleName = simple) =
      (o'.arrange held m.referencedTypes).find? (·.simpleName = simple) := by
  refine find?_congr_of_mem_iff (fun t => o.mem_arrange.trans o'.mem_arrange.symm) ?_
  intro t ht u hu hts hus
  refine h t (o.mem_arrange.mp ht) u (o.mem_arrange.mp hu) ?_
  rw [of_decide_eq_true hts, of_decide_eq_true hus]

/-- The first claim of a simple name is the same under two orders. -/
theorem find?_claims {ms : List Member} (h : ∀ m ∈ ms, m.Unambiguous) (simple : String) :
    (o.claims ms).find? (·.simpleName = simple) =
      (o'.claims ms).find? (·.simpleName = simple) := by
  induction ms using List.reverseRecOn with
  | nil => rfl
  | append_singleton ms m ih =>
      have hfirst : ∀ x ∈ ms, x.Unambiguous := fun x hx => h x (List.mem_append_left _ hx)
      have hlast : m.Unambiguous := h m (List.mem_append_right _ List.mem_cons_self)
      rw [claims_append_singleton, claims_append_singleton, List.find?_append, List.find?_append,
        ih hfirst, find?_arrange o o' hlast]

end ClaimOrder

/-! ## Tables with the same owners -/

namespace NameTable

theorem package_forUnit (aspect governor : TypeName) (row : List TypeName) :
    (forUnit aspect governor row).package = aspect.package := by
  rw [forUnit_eq_claimAll, claimAll_package]

/-- If no member is ambiguous, the tables of two orders have the same owners. -/
theorem owner?_forUnit_claims (o o' : ClaimOrder) {ms : List Member}
    (h : ∀ m ∈ ms, m.Unambiguous) (aspect governor : TypeName) (simple : String) :
    (forUnit aspect governor (o.claims ms)).owner? simple =
      (forUnit aspect governor (o'.claims ms)).owner? simple := by
  rw [owner?_forUnit, owner?_forUnit, o.find?_claims o' h]

variable {n m : NameTable} (hpackage : n.package = m.package)
  (howner : ∀ simple, n.owner? simple = m.owner? simple)
include hpackage howner

/-- Tables with the same owners write every type alike. -/
theorem written_congr (t : TypeName) : n.written t = m.written t := by
  rw [written, written, owns, owns, isVisible, isVisible, hpackage, howner]

/-- Tables with the same owners have the same imports. -/
theorem imports_eq_of_owner? (hn : n.Distinct) (hm : m.Distinct) : n.imports = m.imports := by
  refine imports_congr hn hm fun t => ?_
  rw [mem_imports_iff hn, mem_imports_iff hm, isVisible, isVisible, hpackage, howner]

end NameTable

namespace Draft

variable (o o' : ClaimOrder)

/-! ## Runs under two orders -/

/-- Two drafts that differ at most in their tables of names. -/
def Alike (d d' : Draft) : Prop := ∃ names, d' = { d with names := names }

theorem Alike.refl (d : Draft) : Alike d d := ⟨d.names, rfl⟩

/-- Drafts that are alike and import the same give one unit. -/
theorem Alike.build_eq {d d' : Draft} (h : Alike d d')
    (himports : d.names.imports = d'.names.imports) : d.build = d'.build := by
  obtain ⟨names, rfl⟩ := h
  rw [build, build, himports]

theorem Alike.ite {d d' e e' : Draft} (h : Alike d d') (h' : Alike e e') (p : Prop)
    [Decidable p] : Alike (if p then d else e) (if p then d' else e') := by
  split
  · exact h
  · exact h'

theorem related_addFieldIn (f : Field) :
    Step.Related Alike Eq (addFieldIn o f) (addFieldIn o' f) := by
  rintro d _ ⟨names, rfl⟩
  have hresult : (addFieldIn o f).result d = _ := result_addFieldClaiming ..
  have hresult' : (addFieldIn o' f).result { d with names := names } = _ :=
    result_addFieldClaiming ..
  have hafter : (addFieldIn o f).after d = _ := after_addFieldClaiming ..
  have hafter' : (addFieldIn o' f).after { d with names := names } = _ :=
    after_addFieldClaiming ..
  rw [hresult, hresult', hafter, hafter']
  exact ⟨Step.matches_refl _, .ite ⟨names, rfl⟩ ⟨_, rfl⟩ _⟩

theorem related_addMethodIn (m : Option Method) :
    Step.Related Alike Eq (addMethodIn o m) (addMethodIn o' m) := by
  cases m with
  | none => exact Step.related_pure rfl
  | some m =>
      rintro d _ ⟨names, rfl⟩
      have hresult : (addMethodIn o (some m)).result d = _ := result_addMethodClaiming ..
      have hresult' : (addMethodIn o' (some m)).result { d with names := names } = _ :=
        result_addMethodClaiming ..
      have hafter : (addMethodIn o (some m)).after d = _ := after_addMethodClaiming ..
      have hafter' : (addMethodIn o' (some m)).after { d with names := names } = _ :=
        after_addMethodClaiming ..
      rw [hresult, hresult', hafter, hafter']
      exact ⟨Step.matches_refl _, .ite ⟨names, rfl⟩ ⟨_, rfl⟩ _⟩

theorem related_addAnnotationIn (a : Annotation) :
    Step.Related Alike Eq (addAnnotationIn o a) (addAnnotationIn o' a) := by
  rintro d _ ⟨names, rfl⟩
  exact ⟨rfl, _, rfl⟩

theorem related_addFieldsIn (fs : List Field) :
    Step.Related Alike Eq (addFieldsIn o fs) (addFieldsIn o' fs) := by
  induction fs with
  | nil => exact Step.related_pure rfl
  | cons f fs ih => exact (related_addFieldIn o o' f).bind fun _ _ _ => ih

theorem related_addMethodsIn (ms : List Method) :
    Step.Related Alike Eq (addMethodsIn o ms) (addMethodsIn o' ms) := by
  induction ms with
  | nil => exact Step.related_pure rfl
  | cons m ms ih => exact (related_addMethodIn o o' (some m)).bind fun _ _ _ => ih

/-- An edit ends in the same way under two orders, and leaves all but the table of names
the same. -/
theorem related_stepIn (e : Edit) : Step.Related Alike Eq (e.stepIn o) (e.stepIn o') := by
  cases e with
  | field f => exact related_addFieldIn o o' f
  | method m => exact related_addMethodIn o o' m
  | mark a => exact related_addAnnotationIn o o' a
  | bundle b =>
      refine (related_addFieldsIn o o' b.fields).bind fun _ _ _ => ?_
      refine (related_addMethodsIn o o' b.methods).bind fun _ _ _ => ?_
      exact related_addAnnotationIn o o' b.listener

/-- How each edit of a history ends. -/
def endingsIn (d : Draft) : List Edit → List (Except Fault Unit)
  | [] => []
  | e :: es => (e.stepIn o).result d :: endingsIn ((e.stepIn o).after d) es

variable {o o'} in
/-- From drafts that are alike, the edits of a history end alike. -/
theorem Alike.endings_eq {d d' : Draft} (h : Alike d d') (es : List Edit) :
    endingsIn o d es = endingsIn o' d' es := by
  induction es generalizing d d' with
  | nil => rfl
  | cons e es ih =>
      obtain ⟨hend, hafter⟩ := related_stepIn o o' e d d' h
      rw [endingsIn, endingsIn, ih hafter, Step.matches_eq_iff.mp hend]

variable {o o'} in
/-- Histories of edits lead from alike drafts to alike drafts. -/
theorem Alike.applyAllIn {d d' : Draft} (h : Alike d d') (es : List Edit) :
    Alike (applyAllIn o d es) (applyAllIn o' d' es) := by
  induction es generalizing d d' with
  | nil => exact h
  | cons e es ih => exact ih (related_stepIn o o' e d d' h).2

/-! ## The same unit -/

/-- A history of edits has the same course under two orders of claims, but for the order in
which the tables list their owners. -/
structure OrderFree (declaredBy : String) (aspect governor : TypeName) (es : List Edit) :
    Prop where
  /-- The same edits are refused, with the same faults. -/
  endings_eq : endingsIn o (start declaredBy aspect governor) es =
    endingsIn o' (start declaredBy aspect governor) es
  /-- The units are equal. -/
  build_eq : (applyAllIn o (start declaredBy aspect governor) es).build =
    (applyAllIn o' (start declaredBy aspect governor) es).build
  /-- Their sources are equal. -/
  render_eq : (applyAllIn o (start declaredBy aspect governor) es).build.render =
    (applyAllIn o' (start declaredBy aspect governor) es).build.render
  /-- The tables of names give every type the same name. -/
  written_eq : ∀ t, (applyAllIn o (start declaredBy aspect governor) es).names.written t =
    (applyAllIn o' (start declaredBy aspect governor) es).names.written t

/-- The order of claims does not show in a history whose edits are unambiguous or merge
bundles that productions return. -/
theorem orderFree (declaredBy : String) (aspect governor : TypeName) {es : List Edit}
    (h : ∀ e ∈ es, e.Unambiguous ∨ e.IsProduced) :
    OrderFree o o' declaredBy aspect governor es := by
  have halike : Alike (applyAllIn o (start declaredBy aspect governor) es)
      (applyAllIn o' (start declaredBy aspect governor) es) := (Alike.refl _).applyAllIn es
  have hheld : ∀ m ∈ heldAfter es, m.Unambiguous := by
    intro m hm
    obtain ⟨e, he, hmember⟩ := exists_edit_of_mem_heldAfter hm
    rcases h e he with hunambiguous | hproduced
    · exact hunambiguous m hmember
    · exact hproduced.unambiguous m hmember
  have hpackage := (NameTable.package_forUnit aspect governor (o.claims (heldAfter es))).trans
    (NameTable.package_forUnit aspect governor (o'.claims (heldAfter es))).symm
  have howner := NameTable.owner?_forUnit_claims o o' hheld aspect governor
  have himports := NameTable.imports_eq_of_owner? hpackage howner
    (NameTable.forUnit_distinct ..) (NameTable.forUnit_distinct ..)
  rw [← names_applyAllIn o declaredBy, ← names_applyAllIn o' declaredBy]
    at hpackage howner himports
  have hbuild := halike.build_eq himports
  exact ⟨(Alike.refl _).endings_eq es, hbuild, congrArg CompanionUnit.render hbuild,
    NameTable.written_congr hpackage howner⟩

/-- The bundle of a target that declares nothing. -/
def plainBundle : Bundle := auditBundle (·.column {}) (Target.ofNames []).affirms

/-- A history with a field whose type shares its simple name with a type of the bundle that
is merged after it. -/
def dueThenPlain : List Edit :=
  [.field { name := "due", type := ⟨"com.example.time.Calendar", by decide⟩ },
   .bundle plainBundle]

/-- The edits of this history have the same course in either order. -/
theorem orderFree_dueThenPlain :
    (∀ e ∈ dueThenPlain, e.Unambiguous ∨ e.IsProduced) ∧
      OrderFree .source .reversed "" ⟨"com.example.domain.Customer_Audit", by decide⟩
        ⟨"com.example.domain.Customer", by decide⟩ dueThenPlain := by
  have hfield : (Edit.field { name := "due", type := ⟨"com.example.time.Calendar", by decide⟩ }
      ).Unambiguous := by
    decide
  have hbundle : (Edit.bundle plainBundle).IsProduced :=
    ⟨.proper (.ofNames []), .proper {}, [], plainBundle, result_produce .., rfl⟩
  have h : ∀ e ∈ dueThenPlain, e.Unambiguous ∨ e.IsProduced := by
    intro e he
    rcases List.mem_cons.mp he with rfl | he
    · exact .inl hfield
    · rw [List.mem_singleton.mp he]
      exact .inr hbundle
  exact ⟨h, orderFree .source .reversed "" _ _ h⟩

/-- A field that mentions two types of one simple name imports the first of them. -/
example :
    let f : Field :=
      { name := "due", type := .calendar,
        annotations := [⟨.column, [⟨"name", .classOf ⟨"com.example.time.Calendar", by decide⟩⟩]⟩] }
    let d := start "" ⟨"com.example.domain.Customer_Audit", by decide⟩
      ⟨"com.example.domain.Customer", by decide⟩
    .calendar ∈ (applyAllIn .source d [.field f]).build.imports ∧
      .calendar ∉ (applyAllIn .reversed d [.field f]).build.imports := by
  decide +kernel

end Draft

end AuditAspects
