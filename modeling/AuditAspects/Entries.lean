/-!
# Entries

Lists of entries by key, in the order in which their keys were first put.  Putting an entry
under a key that is there replaces it in its place (`lookup_put`).  Where no key stands twice,
look-up and membership agree (`lookup_eq_some_iff`).
-/

namespace AuditAspects.Entries

variable {α β : Type} [DecidableEq α]

/-- The entries with one replaced, or put last if its key is new. -/
def put (a : α) (b : β) : List (α × β) → List (α × β)
  | [] => [(a, b)]
  | (a', b') :: es => if a' = a then (a, b) :: es else (a', b') :: put a b es

/-- Looking up a key after putting an entry. -/
theorem lookup_put (a a' : α) (b : β) (es : List (α × β)) :
    (put a b es).lookup a' = if a' = a then some b else es.lookup a' := by
  induction es with
  | nil =>
      by_cases h : a' = a
      · simp [put, h]
      · simp [put, List.lookup_cons, h, beq_false_of_ne h]
  | cons e es ih =>
      obtain ⟨k, v⟩ := e
      by_cases hk : k = a
      · subst hk
        by_cases h : a' = k
        · simp [put, h]
        · simp [put, List.lookup_cons, h, beq_false_of_ne h]
      · by_cases h : a' = k
        · subst h
          simp [put, hk]
        · simp [put, hk, List.lookup_cons, beq_false_of_ne h, ih]

/-- Of two entries under one key the second counts. -/
theorem put_put (a : α) (b b' : β) (es : List (α × β)) : put a b' (put a b es) = put a b' es := by
  induction es with
  | nil => simp [put]
  | cons e es ih =>
      obtain ⟨k, v⟩ := e
      by_cases hk : k = a
      · simp [put, hk]
      · simp [put, hk, ih]

/-- An entry with a new key is put last. -/
theorem put_of_not_mem {a : α} {es : List (α × β)} (h : a ∉ es.map Prod.fst) (b : β) :
    put a b es = es ++ [(a, b)] := by
  induction es with
  | nil => rfl
  | cons e es ih =>
      obtain ⟨k, v⟩ := e
      simp only [List.map_cons, List.mem_cons, not_or] at h
      rw [put, if_neg (Ne.symm h.1), ih h.2, List.cons_append]

/-- After putting an entry, only this one is new. -/
theorem mem_put {a : α} {b : β} {e : α × β} {es : List (α × β)} (h : e ∈ put a b es) :
    e = (a, b) ∨ e ∈ es := by
  induction es with
  | nil => exact .inl (List.mem_singleton.mp h)
  | cons d es ih =>
      obtain ⟨k, v⟩ := d
      rw [put] at h
      split at h
      · exact (List.mem_cons.mp h).imp_right (List.mem_cons_of_mem _)
      · rcases List.mem_cons.mp h with rfl | h
        · exact .inr List.mem_cons_self
        · exact (ih h).imp_right (List.mem_cons_of_mem _)

/-! ## Look-up and membership -/

theorem lookup_eq_none_iff {a : α} {es : List (α × β)} :
    es.lookup a = none ↔ a ∉ es.map Prod.fst := by
  rw [List.lookup_eq_none_iff]
  simp only [List.mem_map, not_exists, not_and, bne_iff_ne]
  exact ⟨fun h e he hkey => h e he hkey.symm, fun h e he hkey => h e he hkey.symm⟩

theorem mem_of_lookup {a : α} {b : β} {es : List (α × β)} (h : es.lookup a = some b) :
    (a, b) ∈ es := by
  obtain ⟨before, after, rfl, -⟩ := List.lookup_eq_some_iff.mp h
  exact List.mem_append_right _ List.mem_cons_self

/-- Where no key stands twice, looking up a key finds the entry that has it. -/
theorem lookup_eq_some_iff {es : List (α × β)} (h : (es.map Prod.fst).Nodup) {a : α} {b : β} :
    es.lookup a = some b ↔ (a, b) ∈ es := by
  induction es with
  | nil => simp
  | cons e es ih =>
      obtain ⟨key, d⟩ := e
      obtain ⟨hkey, hes⟩ := List.nodup_cons.mp h
      by_cases ha : a = key
      · subst ha
        rw [List.lookup_cons_self, List.mem_cons, Option.some.injEq, Prod.mk.injEq]
        constructor
        · rintro rfl
          exact .inl ⟨rfl, rfl⟩
        · rintro (⟨-, rfl⟩ | hmem)
          · rfl
          · exact absurd (List.mem_map_of_mem hmem) hkey
      · rw [List.lookup_cons, beq_false_of_ne ha]
        simp only [ih hes, List.mem_cons, Prod.mk.injEq, ha, false_and, false_or]

/-- Where no key stands twice, looking up does not hang on the order of the entries. -/
theorem lookup_perm {es fs : List (α × β)} (hperm : es.Perm fs)
    (h : (es.map Prod.fst).Nodup) (a : α) : es.lookup a = fs.lookup a := by
  have hfs : (fs.map Prod.fst).Nodup := (hperm.map Prod.fst).nodup h
  apply Option.ext
  intro b
  rw [lookup_eq_some_iff h, lookup_eq_some_iff hfs, hperm.mem_iff]

end AuditAspects.Entries
