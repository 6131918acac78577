import AuditAspects.Proofs.DraftHistory

/-!
# The members that a draft holds

A draft keeps its fields, methods and annotations in three lists and the claims of
their types in a table.  A list of `Member`s says at once what was taken in and in
which order.  `heldAfter` reads it off a history of edits: every edit offers its
members one by one, up to the first whose name is taken (`offer`).

*One step.*  A step `Offers` some members if it takes in just these, whatever the draft
held before, and fails exactly if one of them is refused.  Offers compose
(`Offers.bind`), so every edit offers its members (`offers_stepIn`).

*A history.*  The lists and the table of a draft stay in step with the members it holds
(`holds_applyAllIn`, `inStep_applyAllIn`).
-/

namespace AuditAspects

/-! ## Members -/

/-- What a draft may take in. -/
inductive Member
  /-- A field. -/
  | field (f : Field)
  /-- A method. -/
  | method (m : Method)
  /-- An annotation on the governor. -/
  | mark (a : Annotation)

namespace Member

/-- A member as a field. -/
def field? : Member → Option Field
  | .field f => some f
  | _ => none

/-- A member as a method. -/
def method? : Member → Option Method
  | .method m => some m
  | _ => none

/-- A member as an annotation. -/
def mark? : Member → Option Annotation
  | .mark a => some a
  | _ => none

/-- The types that a member mentions. -/
def referencedTypes : Member → List TypeName
  | .field f => f.referencedTypes
  | .method m => m.referencedTypes
  | .mark a => a.referencedTypes

/-- The name of a member is taken by a held member of its kind.  Annotations have no
names. -/
def Clashes (held : List Member) : Member → Prop
  | .field f => ∃ g ∈ held.filterMap field?, g.name = f.name
  | .method m => ∃ g ∈ held.filterMap method?, g.name = m.name
  | .mark _ => False

instance (held : List Member) : (m : Member) → Decidable (m.Clashes held)
  | .field f => inferInstanceAs (Decidable (∃ g ∈ held.filterMap field?, g.name = f.name))
  | .method m => inferInstanceAs (Decidable (∃ g ∈ held.filterMap method?, g.name = m.name))
  | .mark _ => inferInstanceAs (Decidable False)

/-- Every member is of one kind. -/
theorem length_filterMap_kinds (ms : List Member) :
    (ms.filterMap field?).length + (ms.filterMap method?).length +
      (ms.filterMap mark?).length = ms.length := by
  induction ms with
  | nil => rfl
  | cons m ms ih =>
      cases m with
      | field f =>
          simp only [List.filterMap_cons, field?, method?, mark?, List.length_cons]
          omega
      | method m =>
          simp only [List.filterMap_cons, field?, method?, mark?, List.length_cons]
          omega
      | mark a =>
          simp only [List.filterMap_cons, field?, method?, mark?, List.length_cons]
          omega

end Member

/-! ## Offering members -/

section Offering

variable {held xs ys : List Member} {m : Member}

/-- The members held after some are offered one by one, up to the first whose name is
taken. -/
def offer (held : List Member) : List Member → List Member
  | [] => held
  | m :: ms => if m.Clashes held then held else offer (held ++ [m]) ms

/-- No offered member is refused. -/
def Fit (held : List Member) : List Member → Prop
  | [] => True
  | m :: ms => ¬m.Clashes held ∧ Fit (held ++ [m]) ms

/-- Members that all fit are held when the rest is offered. -/
theorem offer_append_of_fit (h : Fit held xs) (ys : List Member) :
    offer held (xs ++ ys) = offer (held ++ xs) ys := by
  induction xs generalizing held with
  | nil => rw [List.append_nil, List.nil_append]
  | cons x xs ih =>
      rw [List.cons_append, offer, if_neg h.1, ih h.2, List.append_assoc, List.singleton_append]

theorem offer_of_fit (h : Fit held xs) : offer held xs = held ++ xs := by
  have happ := offer_append_of_fit h []
  rwa [List.append_nil] at happ

/-- What follows a refused member is not offered. -/
theorem offer_append_of_not_fit (h : ¬Fit held xs) (ys : List Member) :
    offer held (xs ++ ys) = offer held xs := by
  induction xs generalizing held with
  | nil => exact absurd trivial h
  | cons x xs ih =>
      rw [List.cons_append, offer, offer]
      by_cases clash : x.Clashes held
      · rw [if_pos clash, if_pos clash]
      · rw [if_neg clash, if_neg clash]
        exact ih fun hfit => h ⟨clash, hfit⟩

/-- What is held after an offer was held before or is offered. -/
theorem mem_of_mem_offer (h : m ∈ offer held xs) : m ∈ held ∨ m ∈ xs := by
  induction xs generalizing held with
  | nil => exact .inl h
  | cons x xs ih =>
      rw [offer] at h
      split at h
      · exact .inl h
      · rcases ih h with hmem | hmem
        · rcases List.mem_append.mp hmem with hmem | hmem
          · exact .inl hmem
          · exact .inr (List.mem_singleton.mp hmem ▸ List.mem_cons_self)
        · exact .inr (List.mem_cons_of_mem _ hmem)

/-- A row fits if its first part does and the rest fits behind that. -/
theorem fit_append_iff : Fit held (xs ++ ys) ↔ Fit held xs ∧ Fit (held ++ xs) ys := by
  induction xs generalizing held with
  | nil => simp [Fit]
  | cons x xs ih => simp [Fit, ih, and_assoc]

end Offering

/-- The members that an edit offers, in order. -/
def Draft.Edit.members : Draft.Edit → List Member
  | .field f => [.field f]
  | .method none => []
  | .method (some m) => [.method m]
  | .mark a => [.mark a]
  | .bundle b => b.fields.map .field ++ (b.methods.map .method ++ [.mark b.listener])

/-- The members held after a history of edits, in the order in which they were added. -/
def heldAfter (es : List Draft.Edit) : List Member :=
  es.foldl (fun held e => offer held e.members) []

/-- Every held member was offered by an edit. -/
theorem exists_edit_of_mem_heldAfter {es : List Draft.Edit} {m : Member} (h : m ∈ heldAfter es) :
    ∃ e ∈ es, m ∈ e.members := by
  have hfoldl : ∀ held, m ∈ es.foldl (fun held e => offer held e.members) held →
      m ∈ held ∨ ∃ e ∈ es, m ∈ e.members := by
    clear h
    induction es with
    | nil => exact fun held h => .inl h
    | cons e es ih =>
        intro held h
        rcases ih _ h with hmem | ⟨e', he', hm⟩
        · rcases mem_of_mem_offer hmem with hmem | hmem
          · exact .inl hmem
          · exact .inr ⟨e, List.mem_cons_self, hmem⟩
        · exact .inr ⟨e', List.mem_cons_of_mem _ he', hm⟩
  rcases hfoldl [] h with hnil | hedit
  · cases hnil
  · exact hedit

/-- The members of a bundle mention types of the bundle. -/
theorem Bundle.mem_referencedTypes_of_member {b : Bundle} {m : Member}
    (hm : m ∈ (Draft.Edit.bundle b).members) {t : TypeName} (ht : t ∈ m.referencedTypes) :
    t ∈ b.referencedTypes := by
  rw [mem_referencedTypes]
  rcases List.mem_append.mp hm with hm | hm
  · obtain ⟨f, hf, rfl⟩ := List.mem_map.mp hm
    exact .inr (.inl ⟨f, hf, ht⟩)
  · rcases List.mem_append.mp hm with hm | hm
    · obtain ⟨f, hf, rfl⟩ := List.mem_map.mp hm
      exact .inr (.inr ⟨f, hf, ht⟩)
    · rw [List.mem_singleton.mp hm] at ht
      exact .inl ht

/-! ## The claims of members -/

namespace ClaimOrder

variable (o : ClaimOrder)

/-- The types of members in the order in which they claim their names. -/
def claims (ms : List Member) : List TypeName :=
  ms.zipIdx.flatMap fun (m, held) => o.arrange held m.referencedTypes

/-- One more member claims its names last. -/
theorem claims_append_singleton (ms : List Member) (m : Member) :
    o.claims (ms ++ [m]) = o.claims ms ++ o.arrange ms.length m.referencedTypes := by
  simp [claims, List.zipIdx_append]

end ClaimOrder

namespace Draft

variable {o : ClaimOrder} {d : Draft} {held : List Member}

/-- A draft holds some members: they are what its lists and its table are made of. -/
structure Holds (o : ClaimOrder) (d : Draft) (held : List Member) : Prop where
  fields_eq : d.fields = held.filterMap Member.field?
  methods_eq : d.methods = held.filterMap Member.method?
  annotations_eq : d.annotations = held.filterMap Member.mark?
  names_eq : d.names = NameTable.forUnit d.aspect d.governor (o.claims held)

theorem holds_start (o : ClaimOrder) (declaredBy : String) (aspect governor : TypeName) :
    Holds o (start declaredBy aspect governor) [] :=
  ⟨rfl, rfl, rfl, rfl⟩

/-- A draft counts the members that it holds. -/
theorem Holds.held_eq (h : Holds o d held) : d.held = held.length := by
  rw [Draft.held, h.fields_eq, h.methods_eq, h.annotations_eq, Member.length_filterMap_kinds]

/-- The table after one more member. -/
theorem Holds.names_addImports (h : Holds o d held) (m : Member) :
    d.names.addImports (o.arrange d.held m.referencedTypes) =
      NameTable.forUnit d.aspect d.governor (o.claims (held ++ [m])) := by
  rw [h.names_eq, h.held_eq, o.claims_append_singleton, NameTable.forUnit, NameTable.forUnit,
    NameTable.addImports, NameTable.addImports, NameTable.addImports, NameTable.claimAll_append]

theorem filterMap_append_singleton {α β : Type} (f : α → Option β) (xs : List α) (x : α) :
    (xs ++ [x]).filterMap f = xs.filterMap f ++ (f x).toList := by
  rw [List.filterMap_append, List.filterMap_eq_flatMap_toList _ [x], List.flatMap_singleton]

theorem Holds.add {d' : Draft} (h : Holds o d held) (m : Member) (haspect : d'.aspect = d.aspect)
    (hgovernor : d'.governor = d.governor) (hfields : d'.fields = d.fields ++ m.field?.toList)
    (hmethods : d'.methods = d.methods ++ m.method?.toList)
    (hmarks : d'.annotations = d.annotations ++ m.mark?.toList)
    (hnames : d'.names = d.names.addImports (o.arrange d.held m.referencedTypes)) :
    Holds o d' (held ++ [m]) where
  fields_eq := by rw [hfields, h.fields_eq, filterMap_append_singleton]
  methods_eq := by rw [hmethods, h.methods_eq, filterMap_append_singleton]
  annotations_eq := by rw [hmarks, h.annotations_eq, filterMap_append_singleton]
  names_eq := by rw [hnames, h.names_addImports, haspect, hgovernor]

/-! ## What a step offers -/

/-- A step takes in some members up to the first that is refused, and fails if one is. -/
def Offers (o : ClaimOrder) (x : Step Draft Unit) (ms : List Member) : Prop :=
  ∀ d held, Holds o d held → Holds o (x.after d) (offer held ms) ∧
    (Fit held ms ∧ x.result d = .ok () ∨
      ¬Fit held ms ∧ ∃ f, x.result d = .error f ∧ f.kind = .value)

theorem offers_pure : Offers o (pure ()) [] :=
  fun _ _ h => ⟨h, .inl ⟨trivial, rfl⟩⟩

/-- Steps in a row offer their members in a row. -/
theorem Offers.bind {x : Step Draft Unit} {k : Unit → Step Draft Unit} {xs ys : List Member}
    (hx : Offers o x xs) (hk : Offers o (k ()) ys) : Offers o (x >>= k) (xs ++ ys) := by
  intro d held h
  obtain ⟨hafter, hresult⟩ := hx d held h
  rw [Step.after_bind, Step.result_bind, fit_append_iff]
  rcases hresult with ⟨hfit, hok⟩ | ⟨hfit, f, herror, hkind⟩
  · rw [offer_of_fit hfit] at hafter
    obtain ⟨hrest, hend⟩ := hk _ _ hafter
    rw [hok, offer_append_of_fit hfit]
    simp only [hfit, true_and]
    exact ⟨hrest, hend⟩
  · rw [herror, offer_append_of_not_fit hfit]
    exact ⟨hafter, .inr ⟨fun hboth => hfit hboth.1, f, rfl, hkind⟩⟩

/-- A step that takes in one member unless its name is taken. -/
theorem offers_singleton {x : Step Draft Unit} {m : Member}
    (hfree : ∀ d held, Holds o d held → ¬m.Clashes held →
      x.result d = .ok () ∧ Holds o (x.after d) (held ++ [m]))
    (htaken : ∀ d held, Holds o d held → m.Clashes held →
      (∃ f, x.result d = .error f ∧ f.kind = .value) ∧ x.after d = d) : Offers o x [m] := by
  intro d held h
  by_cases clash : m.Clashes held
  · obtain ⟨herror, hafter⟩ := htaken d held h clash
    rw [hafter, offer, if_pos clash]
    exact ⟨h, .inr ⟨fun hfit => hfit.1 clash, herror⟩⟩
  · obtain ⟨hok, hholds⟩ := hfree d held h clash
    rw [offer, if_neg clash, offer]
    exact ⟨hholds, .inl ⟨⟨clash, trivial⟩, hok⟩⟩

theorem offers_addFieldIn (f : Field) : Offers o (addFieldIn o f) [.field f] := by
  refine offers_singleton (fun d held h clash => ?_) fun d held h clash => ?_
  · have free : ¬∃ g ∈ d.fields, g.name = f.name := by rwa [h.fields_eq]
    have hok : (addFieldIn o f).result d = .ok () :=
      (result_addFieldClaiming ..).trans (if_neg free)
    have hafter : (addFieldIn o f).after d = _ := (after_addFieldClaiming ..).trans (if_neg free)
    rw [hafter]
    exact ⟨hok, h.add (.field f) rfl rfl rfl (List.append_nil _).symm (List.append_nil _).symm rfl⟩
  · have taken : ∃ g ∈ d.fields, g.name = f.name := by rwa [h.fields_eq]
    exact ⟨⟨_, (result_addFieldClaiming ..).trans (if_pos taken), rfl⟩,
      (after_addFieldClaiming ..).trans (if_pos taken)⟩

theorem offers_addMethodIn_some (m : Method) : Offers o (addMethodIn o (some m)) [.method m] := by
  refine offers_singleton (fun d held h clash => ?_) fun d held h clash => ?_
  · have free : ¬∃ g ∈ d.methods, g.name = m.name := by rwa [h.methods_eq]
    have hok : (addMethodIn o (some m)).result d = .ok () :=
      (result_addMethodClaiming ..).trans (if_neg free)
    have hafter : (addMethodIn o (some m)).after d = _ :=
      (after_addMethodClaiming ..).trans (if_neg free)
    rw [hafter]
    exact ⟨hok, h.add (.method m) rfl rfl (List.append_nil _).symm rfl (List.append_nil _).symm rfl⟩
  · have taken : ∃ g ∈ d.methods, g.name = m.name := by rwa [h.methods_eq]
    exact ⟨⟨_, (result_addMethodClaiming ..).trans (if_pos taken), rfl⟩,
      (after_addMethodClaiming ..).trans (if_pos taken)⟩

theorem offers_addAnnotationIn (a : Annotation) : Offers o (addAnnotationIn o a) [.mark a] := by
  refine offers_singleton (fun d held h _ => ?_) fun d held h clash => clash.elim
  exact ⟨rfl, h.add (.mark a) rfl rfl (List.append_nil _).symm (List.append_nil _).symm rfl rfl⟩

theorem offers_addFieldsIn (fs : List Field) : Offers o (addFieldsIn o fs) (fs.map .field) := by
  induction fs with
  | nil => exact offers_pure
  | cons f fs ih => exact (offers_addFieldIn f).bind ih

theorem offers_addMethodsIn (ms : List Method) :
    Offers o (addMethodsIn o ms) (ms.map .method) := by
  induction ms with
  | nil => exact offers_pure
  | cons m ms ih => exact (offers_addMethodIn_some m).bind ih

/-- Every edit offers its members. -/
theorem offers_stepIn (e : Edit) : Offers o (e.stepIn o) e.members := by
  cases e with
  | field f => exact offers_addFieldIn f
  | method m =>
      cases m with
      | none => exact offers_pure
      | some m => exact offers_addMethodIn_some m
  | mark a => exact offers_addAnnotationIn a
  | bundle b =>
      exact (offers_addFieldsIn b.fields).bind
        ((offers_addMethodsIn b.methods).bind (offers_addAnnotationIn b.listener))

/-! ## Histories -/

theorem holds_foldl (h : Holds o d held) (es : List Edit) :
    Holds o (applyAllIn o d es) (es.foldl (fun held e => offer held e.members) held) := by
  induction es generalizing d held with
  | nil => exact h
  | cons e es ih => exact ih (offers_stepIn e d held h).1

/-- After every history a draft holds the members that were taken in. -/
theorem holds_applyAllIn (o : ClaimOrder) (declaredBy : String) (aspect governor : TypeName)
    (es : List Edit) :
    Holds o (applyAllIn o (start declaredBy aspect governor) es) (heldAfter es) :=
  holds_foldl (holds_start o declaredBy aspect governor) es

/-- The table of a draft is that of a unit in which the types of the held members claim
their names, member by member. -/
theorem names_applyAllIn (o : ClaimOrder) (declaredBy : String) (aspect governor : TypeName)
    (es : List Edit) :
    (applyAllIn o (start declaredBy aspect governor) es).names =
      NameTable.forUnit aspect governor (o.claims (heldAfter es)) := by
  obtain ⟨haspect, hgovernor⟩ := aspect_governor_applyAllIn o declaredBy aspect governor es
  rw [(holds_applyAllIn o declaredBy aspect governor es).names_eq, haspect, hgovernor]

/-! ## The laws of a draft -/

/-- No two fields and no two methods share a name. -/
def Named (d : Draft) : Prop :=
  (d.fields.map Field.name).Nodup ∧ (d.methods.map Method.name).Nodup

theorem Takes.named {d d' : Draft} (h : Takes d d') (hd : d.Named) : d'.Named := by
  cases h with
  | field free _ => exact ⟨nodup_map_append_singleton hd.1 free, hd.2⟩
  | method free _ => exact ⟨hd.1, nodup_map_append_singleton hd.2 free⟩
  | mark _ => exact hd

/-- The members of a draft and its table of names are in step. -/
structure InStep (o : ClaimOrder) (d : Draft) (aspect governor : TypeName)
    (held : List Member) : Prop where
  /-- No two fields share a name. -/
  fields_distinct : (d.build.fields.map Field.name).Nodup
  /-- No two methods share a name. -/
  methods_distinct : (d.build.methods.map Method.name).Nodup
  /-- The unit holds the members that were added, each kind in the order of addition. -/
  fields_eq : d.build.fields = held.filterMap Member.field?
  /-- The unit holds the methods that were added. -/
  methods_eq : d.build.methods = held.filterMap Member.method?
  /-- The unit holds the annotations that were added. -/
  annotations_eq : d.build.annotations = held.filterMap Member.mark?
  /-- The imports are those of a fresh table in which the aspect, the governor and then
  the types of the added members claim their names. -/
  imports_eq : d.build.imports =
    ((NameTable.reserve ⟨aspect.package, []⟩ [aspect, governor]).addImports
      (o.claims held)).imports
  /-- The aspect owns its name. -/
  owns_aspect : d.names.owns aspect
  /-- The governor owns its name, unless the aspect has the same. -/
  owns_governor_iff : d.names.owns governor ↔
    governor = aspect ∨ governor.simpleName ≠ aspect.simpleName
  /-- Every type that a member mentions has an owner of its simple name. -/
  claimed : ∀ t ∈ d.build.referencedTypes, ∃ u, d.names.owner? t.simpleName = some u
  /-- Nothing else is imported. -/
  mem_imports : ∀ t ∈ d.build.imports, t = governor ∨ t ∈ d.build.referencedTypes
  /-- An edit is refused exactly if the name of a member that it offers is taken. -/
  refused_iff : ∀ e : Edit,
    Fit held e.members ∧ (e.stepIn o).result d = .ok () ∨
      ¬Fit held e.members ∧ ∃ f, (e.stepIn o).result d = .error f ∧ f.kind = .value

/-- Members and names are in step after every history of edits, refused ones included. -/
theorem inStep_applyAllIn (o : ClaimOrder) (declaredBy : String) (aspect governor : TypeName)
    (es : List Edit) :
    InStep o (applyAllIn o (start declaredBy aspect governor) es) aspect governor
      (heldAfter es) := by
  have hholds := holds_applyAllIn o declaredBy aspect governor es
  have hnames := names_applyAllIn o declaredBy aspect governor es
  obtain ⟨-, hgovernor⟩ := aspect_governor_applyAllIn o declaredBy aspect governor es
  obtain ⟨history, hrecords⟩ := exists_records_applyAllIn o declaredBy aspect governor es
  have hnamed : (applyAllIn o (start declaredBy aspect governor) es).Named :=
    takesAll_invariant (fun _ _ h => h.named) (takesAll_applyAllIn o _ es)
      ⟨List.nodup_nil, List.nodup_nil⟩
  generalize applyAllIn o (start declaredBy aspect governor) es = d at *
  constructor
  · exact hnamed.1
  · exact hnamed.2
  · exact hholds.fields_eq
  · exact hholds.methods_eq
  · exact hholds.annotations_eq
  · exact congrArg NameTable.imports hnames
  · rw [hnames]
    exact NameTable.owns_forUnit_aspect _ _ _
  · rw [hnames]
    exact NameTable.owns_forUnit_governor_iff _ _ _
  · intro t ht
    exact hrecords.exists_owner (List.mem_cons_of_mem _ ht)
  · intro t ht
    have himports : t ∈ (NameTable.forUnit d.aspect d.governor history).imports :=
      hrecords.names_eq ▸ ht
    rw [← hrecords.mem_iff, ← hgovernor]
    exact NameTable.mem_of_mem_imports_forUnit _ _ _ himports
  · intro e
    exact (offers_stepIn e d _ hholds).2

end Draft

end AuditAspects
