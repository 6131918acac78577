import AuditAspects.Proofs.ClassHistory

/-!
# The registry after a history

The registry is told by the attempts to register classes since it was cleared last
(`History.attempts`), whether they go through or not: the first class of a name holds it, and
the names stand in the order of their first attempts (`Roll.FirstOf`).  One attempt keeps this
up (`Roll.FirstOf.entered`), and so it holds after every history (`History.firstOf_registry`).

An attempt for a class with a name is refused exactly if a different class holds the name,
and then the registry stays as it is (`RegistryLaws`).
-/

namespace AuditAspects

/-! ## Attempts -/

/-- The classes that a history has tried to register since the registry was cleared last. -/
def History.attempts : History → List Contract
  | start => []
  | next _ .clear => []
  | next earlier d => earlier.attempts ++ (earlier.catalogue.tried? d).toList

/-- A deed other than clearing adds its attempt, if it makes one. -/
theorem History.attempts_next {d : Deed} (hd : d ≠ .clear) (h : History) :
    (h.next d).attempts = h.attempts ++ (h.catalogue.tried? d).toList := by
  cases d with
  | clear => exact absurd rfl hd
  | define | audit | register | changeCopy => rfl

/-- The place of the first attempt for a name. -/
def firstAttempt (tried : List Contract) (name : String) : Nat :=
  tried.findIdx fun c => c.typeName? = some name

/-- One more attempt is the first for a name only if none came before. -/
theorem firstAttempt_append (tried : List Contract) (c : Contract) (name : String) :
    firstAttempt (tried ++ [c]) name =
      if firstAttempt tried name < tried.length then firstAttempt tried name
      else firstAttempt [c] name + tried.length :=
  List.findIdx_append

/-- A roll holds the first class of each name, in the order of the first attempts. -/
structure Roll.FirstOf (r : Roll) (tried : List Contract) : Prop where
  get : ∀ name, r.lookup name = tried.find? fun c => c.typeName? = some name
  order : r.Pairwise fun e e' => firstAttempt tried e.1 < firstAttempt tried e'.1

section FirstOf

variable {r : Roll} {tried : List Contract}

theorem Roll.firstOf_nil : Roll.FirstOf [] [] := ⟨fun _ => rfl, .nil⟩

/-- A name has been attempted exactly if it stands on the roll. -/
theorem Roll.FirstOf.firstAttempt_lt_iff (h : r.FirstOf tried) {name : String} :
    firstAttempt tried name < tried.length ↔ (r.lookup name).isSome := by
  rw [firstAttempt, h.get, List.find?_isSome, List.findIdx_lt_length]

/-- The names that are held keep their places, since an attempt comes after all others. -/
theorem Roll.FirstOf.place_of_mem (h : r.FirstOf tried) (c : Contract) {e : String × Contract}
    (he : e ∈ r) : firstAttempt (tried ++ [c]) e.1 = firstAttempt tried e.1 ∧
      firstAttempt tried e.1 < tried.length := by
  have hlt : firstAttempt tried e.1 < tried.length := by
    rw [h.firstAttempt_lt_iff, Option.isSome_iff_ne_none, Ne, Roll.lookup_eq_none_iff, not_not]
    exact List.mem_map_of_mem he
  exact ⟨(firstAttempt_append ..).trans (if_pos hlt), hlt⟩

/-- A free name has its first attempt last. -/
theorem Roll.FirstOf.place_of_free (h : r.FirstOf tried) (c : Contract) {name : String}
    (hfree : r.lookup name = none) : tried.length ≤ firstAttempt (tried ++ [c]) name := by
  have hlate : ¬firstAttempt tried name < tried.length := by
    rw [h.firstAttempt_lt_iff, hfree]
    exact Bool.false_ne_true
  rw [firstAttempt_append, if_neg hlate]
  exact Nat.le_add_left _ _

theorem Roll.FirstOf.entered (h : r.FirstOf tried) (c : Contract) :
    (r.entered c).FirstOf (tried ++ [c]) := by
  have hkept : r.Pairwise fun e e' =>
      firstAttempt (tried ++ [c]) e.1 < firstAttempt (tried ++ [c]) e'.1 :=
    h.order.imp_of_mem fun he he' hlt => by
      rwa [(h.place_of_mem c he).1, (h.place_of_mem c he').1]
  constructor
  · intro name
    rw [Roll.lookup_entered, h.get, List.find?_append, List.find?_singleton]
    simp only [decide_eq_true_eq]
  · cases hc : r.enter c with
    | error f => rwa [Roll.entered_of_error hc]
    | ok r' =>
        rw [Roll.entered_of_ok hc]
        obtain ⟨t, -, ⟨hfree, rfl⟩ | ⟨-, -, -, rfl⟩⟩ := Roll.enter_eq_ok hc
        · refine List.pairwise_append.mpr
            ⟨hkept, List.pairwise_singleton _ _, fun e he e' he' => ?_⟩
          obtain ⟨hplace, hlt⟩ := h.place_of_mem c he
          rw [List.mem_singleton.mp he', hplace]
          exact Nat.lt_of_lt_of_le hlt (h.place_of_free c hfree)
        · exact hkept

end FirstOf

/-- The registry holds the first class of each name since it was cleared last. -/
theorem History.firstOf_registry (h : History) :
    Roll.FirstOf h.catalogue.store.registry h.attempts := by
  induction h with
  | start => exact Roll.firstOf_nil
  | next earlier d ih =>
      cases d with
      | clear => exact Roll.firstOf_nil
      | define | audit | register | changeCopy =>
          rw [History.attempts_next (by simp), History.catalogue,
            Catalogue.registry_apply (by simp)]
          cases earlier.catalogue.tried? _ with
          | none => rwa [Option.toList_none, List.append_nil]
          | some c => exact ih.entered c

/-! ## The laws of the registry -/

/-- What holds of the registry after some attempts. -/
structure RegistryLaws (cat : Catalogue) (tried : List Contract) : Prop where
  /-- Each name occurs once. -/
  names : (cat.store.registry.map Prod.fst).Nodup
  /-- It is the name of its class. -/
  named : ∀ e ∈ cat.store.registry, e.2.Named e.1
  /-- Each class occurs at most once. -/
  classes : (cat.store.registry.map fun e => e.2.id).Nodup
  /-- The first class of a name that was tried holds it. -/
  get : ∀ name, cat.store.get? name = tried.find? fun c => c.typeName? = some name
  /-- The names stand in the order of their first attempts. -/
  order : cat.store.registry.Pairwise fun e e' =>
    firstAttempt tried e.1 < firstAttempt tried e'.1
  /-- To register the holder of a name again changes nothing. -/
  repeated : ∀ d name c, cat.tried? d = some c → cat.store.get? name = some c →
    cat.ending d = .ok () ∧ (cat.apply d).store.registry = cat.store.registry
  /-- A class with a name is refused exactly if a different class holds the name. -/
  refused_iff : ∀ d name c, cat.tried? d = some c → c.Named name →
    ((∃ f, cat.ending d = .error f ∧ f.kind = .value) ↔
      ∃ holder, cat.store.get? name = some holder ∧ holder ≠ c)
  /-- That is all that can go wrong with it, and then the registry stays as it is. -/
  refused : ∀ d name c f, cat.tried? d = some c → c.Named name → cat.ending d = .error f →
    f = .entityRegistered name ∧ (cat.apply d).store.registry = cat.store.registry

namespace Catalogue

variable {cat : Catalogue} {d : Deed} {c : Contract}

/-- No class is registered twice. -/
theorem Sound.classes_nodup (h : cat.Sound) :
    (cat.store.registry.map fun e => e.2.id).Nodup := by
  have hkeys : cat.store.registry.Pairwise fun e e' => e.1 ≠ e'.1 := List.pairwise_map.mp h.distinct
  refine List.pairwise_map.mpr (hkeys.imp_of_mem fun {e e'} he he' hne hid => hne ?_)
  obtain ⟨⟨t, ht, hname⟩, hknows⟩ := h.registered e he
  obtain ⟨hnamed, hknows'⟩ := h.registered e' he'
  have hsame : e.2 = e'.2 := h.knows_inj hknows hknows' hid
  rw [← hname, (Contract.named_iff (hsame ▸ ht)).mp hnamed]

/-- The class that holds its name can be registered again, and nothing changes. -/
theorem Sound.repeated (h : cat.Sound) {name : String} (hc : cat.tried? d = some c)
    (hholder : cat.store.get? name = some c) :
    cat.ending d = .ok () ∧ (cat.apply d).store.registry = cat.store.registry := by
  obtain ⟨t, ht, rfl⟩ := (h.knows_of_get? hholder).1
  have henter : Roll.enter cat.store.registry c = .ok cat.store.registry := by
    rw [Store.get?] at hholder
    simp only [Roll.enter, ht, hholder, ↓reduceIte]
  have hd : d ≠ .clear := by
    rintro rfl
    cases hc
  refine ⟨?_, ?_⟩
  · rw [ending_of_tried? hc, henter]
    rfl
  · rw [registry_apply hd, hc]
    exact Roll.entered_of_ok henter

/-- A class with a name is refused exactly if a different class holds the name. -/
theorem Sound.refused_iff (h : cat.Sound) {name : String} (hc : cat.tried? d = some c)
    (hname : c.Named name) {f : Fault} :
    cat.ending d = .error f ↔
      f = .entityRegistered name ∧ ∃ holder, cat.store.get? name = some holder ∧ holder ≠ c := by
  have hknows : cat.Knows c := h.knows_of_tried? hc
  rw [ending_of_tried? hc, Roll.enter_map_eq_error_iff]
  obtain ⟨t, ht, rfl⟩ := hname
  constructor
  · intro hf
    rcases Roll.enter_eq_error hf with htype | ⟨u, holder, hu, hholder, hid, rfl⟩
    · exact absurd ⟨t, ht, rfl⟩ (Contract.not_named htype t.name)
    · cases ht.symm.trans hu
      refine ⟨rfl, holder, hholder, ?_⟩
      rintro rfl
      exact hid rfl
  · rintro ⟨rfl, holder, hholder, hne⟩
    have hid : holder.id ≠ c.id := fun hid =>
      hne (h.knows_inj (h.knows_of_get? hholder).2 hknows hid)
    rw [Store.get?] at hholder
    simp only [Roll.enter, ht, hholder, if_neg hid]

end Catalogue

/-- The laws of the registry hold after every history. -/
theorem registryLaws (h : History) : RegistryLaws h.catalogue h.attempts where
  names := h.sound.distinct
  named e he := (h.sound.registered e he).1
  classes := h.sound.classes_nodup
  get := h.firstOf_registry.get
  order := h.firstOf_registry.order
  repeated _ _ _ hc hholder := h.sound.repeated hc hholder
  refused_iff d name c hc hname := by
    constructor
    · rintro ⟨f, hf, -⟩
      exact ((h.sound.refused_iff hc hname).mp hf).2
    · intro hholder
      exact ⟨_, (h.sound.refused_iff hc hname).mpr ⟨rfl, hholder⟩, rfl⟩
  refused _ _ _ _ hc hname hf :=
    ⟨((h.sound.refused_iff hc hname).mp hf).1, Catalogue.registry_apply_of_error hf⟩

end AuditAspects
