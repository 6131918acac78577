import AuditAspects.NameTable
import Mathlib.Data.List.Nodup

/-!
# Ownership of simple names

A table made by claims gives each simple name to one type (`Distinct.claimAll`),
so being in the table and owning one's simple name are the same
(`mem_owners_iff`).  The imports are the owners that are not visible, strictly
ascending (`mem_imports_iff`, `imports_pairwise_lt`).

*Units.*  The table of a unit starts with the aspect and its governor
(`forUnit`).  A table that is put together again from these two and the imports
forgets the owners that are visible by themselves (`owner?_forUnit_imports`).
Every name comes out the same as before, except where a visible type shares its
simple name with such an owner (`written_forUnit_imports_iff`).
-/

namespace AuditAspects

/-! ## Distinct names -/

section DistinctNames

variable {α : Type} {name : α → String} {xs ys : List α} {y : α}

/-- A name that is free stays distinct from the others when it is added. -/
theorem nodup_map_append_singleton (h : (xs.map name).Nodup)
    (free : ∀ x ∈ xs, name x ≠ name y) : ((xs ++ [y]).map name).Nodup := by
  rw [List.map_append, List.map_singleton, ← List.concat_eq_append]
  refine h.concat fun hmem => ?_
  obtain ⟨x, hx, hname⟩ := List.mem_map.mp hmem
  exact free x hx hname

/-- Where all names are distinct, each is free among those before it. -/
theorem free_of_nodup_map (h : ((xs ++ y :: ys).map name).Nodup) :
    ¬∃ x ∈ xs, name x = name y := by
  rintro ⟨x, hx, hname⟩
  rw [List.map_append, List.map_cons, List.nodup_append] at h
  exact h.2.2 _ (List.mem_map_of_mem hx) _ List.mem_cons_self hname

end DistinctNames

namespace NameTable

variable {n : NameTable} {t u : TypeName} {simple : String}

/-! ## One owner for each name -/

/-- No two owners share a simple name. -/
def Distinct (n : NameTable) : Prop := (n.owners.map TypeName.simpleName).Nodup

/-- The owner of a name has it for its simple name. -/
theorem simpleName_of_owner? (h : n.owner? simple = some u) : u.simpleName = simple := by
  have := List.find?_some h
  simpa using this

theorem mem_owners_of_owner? (h : n.owner? simple = some u) : u ∈ n.owners :=
  List.mem_of_find?_eq_some h

/-- A name is free exactly if no owner has it. -/
theorem owner?_eq_none_iff : n.owner? simple = none ↔ ∀ u ∈ n.owners, u.simpleName ≠ simple := by
  simp [owner?, List.find?_eq_none]

theorem distinct_empty (package : String) : Distinct ⟨package, []⟩ := List.nodup_nil

theorem Distinct.claim (h : n.Distinct) (t : TypeName) : (n.claim t).Distinct := by
  rw [NameTable.claim]
  cases ho : n.owner? t.simpleName with
  | some u => exact h
  | none => exact nodup_map_append_singleton h (owner?_eq_none_iff.mp ho)

theorem Distinct.claimAll (h : n.Distinct) (ts : List TypeName) : (n.claimAll ts).Distinct := by
  induction ts generalizing n with
  | nil => exact h
  | cons t ts ih => exact ih (h.claim t)

/-- The owners are the types that own their simple names. -/
theorem mem_owners_iff (h : n.Distinct) : t ∈ n.owners ↔ n.owner? t.simpleName = some t := by
  refine ⟨fun ht => ?_, mem_owners_of_owner?⟩
  cases ho : n.owner? t.simpleName with
  | none => exact absurd rfl (owner?_eq_none_iff.mp ho t ht)
  | some u =>
      have hu : u ∈ n.owners := mem_owners_of_owner? ho
      have hs : u.simpleName = t.simpleName := simpleName_of_owner? ho
      rw [List.inj_on_of_nodup_map h hu ht hs]

/-! ## Imports -/

@[simp] theorem isVisible_claimAll (ts : List TypeName) :
    (n.claimAll ts).isVisible t = n.isVisible t := by
  rw [isVisible, isVisible, claimAll_package]

/-- The imports are the owners that are not visible by themselves. -/
theorem mem_imports_iff (h : n.Distinct) :
    t ∈ n.imports ↔ n.owner? t.simpleName = some t ∧ n.isVisible t = false := by
  rw [imports, TypeName.sort, mem_sortBy, List.mem_filter, mem_owners_iff h]
  simp

/-- Sorting distinct types by name leaves no two of them in the wrong order or equal. -/
theorem sort_pairwise_lt {ts : List TypeName} (h : ts.Nodup) :
    (TypeName.sort ts).Pairwise fun a b => a.name < b.name := by
  have hnames : (ts.map TypeName.name).Nodup :=
    List.Pairwise.map _ (fun a b hne heq => hne (TypeName.ext_name heq)) h
  exact sortBy_key_pairwise_lt TypeName.name hnames

theorem imports_pairwise_lt (h : n.Distinct) :
    n.imports.Pairwise fun a b => a.name < b.name :=
  sort_pairwise_lt ((List.Nodup.of_map _ h).filter _)

/-- Two tables that import the same types list them in the same order. -/
theorem imports_congr {m : NameTable} (hn : n.Distinct) (hm : m.Distinct)
    (h : ∀ t, t ∈ n.imports ↔ t ∈ m.imports) : n.imports = m.imports := by
  have hnodup : ∀ {k : NameTable}, k.Distinct → k.imports.Nodup := by
    intro k hk
    refine (imports_pairwise_lt hk).imp ?_
    rintro a _ hlt rfl
    exact String.lt_irrefl _ hlt
  have hperm : n.imports.Perm m.imports :=
    (List.perm_ext_iff_of_nodup (hnodup hn) (hnodup hm)).mpr h
  refine hperm.eq_of_pairwise ?_ (imports_pairwise_lt hn) (imports_pairwise_lt hm)
  intro a b _ _ hab hba
  exact absurd hba (String.lt_asymm hab)

/-- The import of a simple name is its owner, if that is not visible. -/
theorem find?_imports (h : n.Distinct) (simple : String) :
    n.imports.find? (·.simpleName = simple) =
      (n.owner? simple).filter fun u => !n.isVisible u := by
  have honly : ∀ v ∈ n.imports, v.simpleName = simple →
      n.owner? simple = some v ∧ n.isVisible v = false := by
    intro v hv hs
    exact hs ▸ (mem_imports_iff h).mp hv
  cases hf : n.imports.find? (·.simpleName = simple) with
  | some v =>
      have hv := honly v (List.mem_of_find?_eq_some hf) (by simpa using List.find?_some hf)
      rw [hv.1, Option.filter_some, hv.2]
      rfl
  | none =>
      symm
      rw [Option.filter_eq_none_iff]
      intro u ho hu
      have hs : u.simpleName = simple := simpleName_of_owner? ho
      have hmem : u ∈ n.imports := (mem_imports_iff h).mpr ⟨hs ▸ ho, by simpa using hu⟩
      have := List.find?_eq_none.mp hf u hmem
      simp [hs] at this

/-! ## What is written -/

theorem written_of_owner (h : n.owner? t.simpleName = some t) : n.written t = t.simpleName := by
  simp [written, owns, h]

/-- A type whose name another type owns is written in full. -/
theorem written_of_other (h : n.owner? t.simpleName = some u) (hne : u ≠ t) :
    n.written t = t.name := by
  simp [written, owns, h, hne]

/-- A type whose name is free is written by it only if it is visible. -/
theorem written_of_free (h : n.owner? t.simpleName = none) :
    n.written t = if n.isVisible t then t.simpleName else t.name := by
  simp [written, owns, h]

/-! ## The table of a unit -/

/-- The table of a unit: the aspect and its governor claim their names first, then
the other types. -/
def forUnit (aspect governor : TypeName) (types : List TypeName) : NameTable :=
  (reserve ⟨aspect.package, []⟩ [aspect, governor]).addImports types

section Units

variable (aspect governor : TypeName) (types : List TypeName)

/-- The aspect, its governor and the other types make their claims in a row. -/
theorem forUnit_eq_claimAll :
    forUnit aspect governor types =
      claimAll ⟨aspect.package, []⟩ (aspect :: governor :: types) := rfl

/-- In the table of a unit every name has one owner at most. -/
theorem forUnit_distinct : (forUnit aspect governor types).Distinct :=
  ((distinct_empty _).claimAll _).claimAll _

/-- In a unit the aspect comes first, the governor next, and then the first type that claims the
name. -/
theorem owner?_forUnit (simple : String) :
    (forUnit aspect governor types).owner? simple =
      if aspect.simpleName = simple then some aspect
      else if governor.simpleName = simple then some governor
      else types.find? (·.simpleName = simple) := by
  rw [forUnit_eq_claimAll, owner?_claimAll]
  by_cases ha : aspect.simpleName = simple
  · simp [owner?, ha]
  · by_cases hg : governor.simpleName = simple
    · simp [owner?, ha, hg]
    · simp [owner?, ha, hg]

theorem owns_forUnit_aspect : (forUnit aspect governor types).owns aspect := by
  rw [owns, owner?_forUnit, if_pos rfl]
  simp

/-- Only the aspect can take its name from the governor. -/
theorem owns_forUnit_governor_iff :
    (forUnit aspect governor types).owns governor ↔
      governor = aspect ∨ governor.simpleName ≠ aspect.simpleName := by
  rw [owns, owner?_forUnit]
  by_cases ha : aspect.simpleName = governor.simpleName
  · rw [if_pos ha]
    simp [ha, eq_comm]
  · rw [if_neg ha, if_pos rfl]
    simp [Ne.symm ha]

/-- Types of the unit's own package are visible, and those that always are. -/
theorem isVisible_forUnit (t : TypeName) :
    (forUnit aspect governor types).isVisible t = (t.isLang || t.package = aspect.package) := by
  rw [forUnit, addImports, reserve, isVisible_claimAll, isVisible_claimAll]
  rfl

/-- The aspect is visible in its unit, so it is never imported. -/
theorem mem_of_mem_imports_forUnit {t : TypeName}
    (h : t ∈ (forUnit aspect governor types).imports) : t = governor ∨ t ∈ types := by
  rw [mem_imports_iff (forUnit_distinct aspect governor types), isVisible_forUnit,
    owner?_forUnit] at h
  obtain ⟨howner, hvisible⟩ := h
  split at howner
  · rw [← Option.some.inj howner] at hvisible
    simp at hvisible
  · split at howner
    · exact .inl (Option.some.inj howner).symm
    · exact .inr (List.mem_of_find?_eq_some howner)

/-- The table that is put together again from the imports has the same owners, but
for those that are visible and neither the aspect nor the governor. -/
theorem owner?_forUnit_imports (simple : String) :
    (forUnit aspect governor (forUnit aspect governor types).imports).owner? simple =
      ((forUnit aspect governor types).owner? simple).filter fun u =>
        u = aspect || u = governor || !(forUnit aspect governor types).isVisible u := by
  generalize hn : forUnit aspect governor types = n
  have hd : n.Distinct := hn ▸ forUnit_distinct aspect governor types
  have howner := hn ▸ owner?_forUnit aspect governor types simple
  rw [owner?_forUnit]
  by_cases ha : aspect.simpleName = simple
  · rw [if_pos ha] at howner ⊢
    rw [howner, Option.filter_some]
    simp
  by_cases hg : governor.simpleName = simple
  · rw [if_neg ha, if_pos hg] at howner ⊢
    rw [howner, Option.filter_some]
    simp
  rw [if_neg ha, if_neg hg, find?_imports hd]
  cases ho : n.owner? simple with
  | none => rfl
  | some u =>
      have hs : u.simpleName = simple := simpleName_of_owner? ho
      have hua : u ≠ aspect := fun h => ha (h ▸ hs)
      have hug : u ≠ governor := fun h => hg (h ▸ hs)
      rw [Option.filter_some, Option.filter_some]
      simp [hua, hug]

/-- A name comes out of the table that is put together again as it was, unless a
visible type shares it with another visible type, its owner. -/
theorem written_forUnit_imports_iff {t u : TypeName}
    (ho : (forUnit aspect governor types).owner? t.simpleName = some u) :
    (forUnit aspect governor (forUnit aspect governor types).imports).written t =
        (forUnit aspect governor types).written t ↔
      ¬((forUnit aspect governor types).isVisible t ∧ '.' ∈ t.name.toList ∧ u ≠ t ∧
        (forUnit aspect governor types).isVisible u ∧ u ≠ aspect ∧ u ≠ governor) := by
  have hrebuilt := owner?_forUnit_imports aspect governor types t.simpleName
  have hvis : (forUnit aspect governor (forUnit aspect governor types).imports).isVisible t =
      (forUnit aspect governor types).isVisible t := by
    rw [isVisible_forUnit, isVisible_forUnit]
  generalize forUnit aspect governor types = n at *
  generalize forUnit aspect governor n.imports = m at *
  rw [ho, Option.filter_some] at hrebuilt
  by_cases hkept : u = aspect ∨ u = governor ∨ n.isVisible u = false
  · rw [if_pos (by simpa [or_assoc] using hkept)] at hrebuilt
    have hsame : m.written t = n.written t := by
      by_cases hut : u = t
      · rw [written_of_owner (hut ▸ hrebuilt), written_of_owner (hut ▸ ho)]
      · rw [written_of_other hrebuilt hut, written_of_other ho hut]
    refine iff_of_true hsame ?_
    rintro ⟨-, -, -, hu, hua, hug⟩
    rcases hkept with h | h | h
    · exact hua h
    · exact hug h
    · rw [h] at hu
      cases hu
  · rw [if_neg (by simpa [and_assoc] using hkept)] at hrebuilt
    obtain ⟨hua, hug, hu⟩ : u ≠ aspect ∧ u ≠ governor ∧ n.isVisible u = true := by
      simpa using hkept
    rw [written_of_free hrebuilt, hvis]
    by_cases hut : u = t
    · rw [written_of_owner (hut ▸ ho), if_pos (hut ▸ hu)]
      simp [hut]
    · rw [written_of_other ho hut]
      cases ht : n.isVisible t with
      | false => simp
      | true =>
          rw [if_pos rfl]
          by_cases hdot : '.' ∈ t.name.toList
          · have hne : t.simpleName ≠ t.name := by
              intro h
              exact TypeName.dot_not_mem_simpleName t (h ▸ hdot)
            simp [hne, hdot, hut, hu, hua, hug]
          · simp [(TypeName.name_eq_simpleName hdot).1, hdot]

end Units

end NameTable

end AuditAspects
