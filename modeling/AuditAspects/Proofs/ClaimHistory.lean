import AuditAspects.Proofs.NameOwnership

/-!
# Histories of claims

A table of names is made by calls that reserve names or add imports, each for any
number of types.  Such a history comes to the claims of all their types in a row
(`runAll_eq_claimAll`), and the first claim of a simple name wins: `FirstWins` says
what that means for the owners, the imports and the written names of the table, and
`firstWins_runAll` that it holds after every history.
-/

namespace AuditAspects

namespace NameTable

variable {n : NameTable} {t u : TypeName}

/-! ## Calls -/

/-- A call that lets types claim their simple names. -/
inductive Call
  /-- Claims for types that the unit writes in any case. -/
  | reserve (types : List TypeName)
  /-- Claims for types that the members of the unit mention. -/
  | addImports (types : List TypeName)

/-- The types that a call is for. -/
def Call.types : Call → List TypeName
  | .reserve types => types
  | .addImports types => types

/-- The table after a call. -/
def Call.run (n : NameTable) : Call → NameTable
  | .reserve types => n.reserve types
  | .addImports types => n.addImports types

/-- The table after a history of calls. -/
def runAll (n : NameTable) (calls : List Call) : NameTable := calls.foldl Call.run n

/-- Later calls run on the table that earlier ones leave. -/
theorem runAll_append (n : NameTable) (calls later : List Call) :
    n.runAll (calls ++ later) = (n.runAll calls).runAll later :=
  List.foldl_append

/-- A run of calls claims their types one after the other. -/
theorem runAll_eq_claimAll (n : NameTable) (calls : List Call) :
    n.runAll calls = n.claimAll (calls.flatMap Call.types) := by
  induction calls generalizing n with
  | nil => rfl
  | cons call calls ih =>
      have hcall : Call.run n call = n.claimAll call.types := by
        cases call with
        | reserve types => rfl
        | addImports types => rfl
      have hrun : n.runAll (call :: calls) = (Call.run n call).runAll calls := rfl
      rw [hrun, ih, hcall, List.flatMap_cons, claimAll_append]

/-- An owner keeps its name whatever is called later. -/
theorem owner?_runAll_of_some {simple : String} (h : n.owner? simple = some u)
    (calls : List Call) : (n.runAll calls).owner? simple = some u := by
  rw [runAll_eq_claimAll, owner?_claimAll, h, Option.some_or]

/-! ## The first claim of a name -/

/-- A type is the first of a row that has its simple name. -/
def FirstClaim (claims : List TypeName) (t : TypeName) : Prop :=
  ∃ before after, claims = before ++ t :: after ∧ ∀ u ∈ before, u.simpleName ≠ t.simpleName

/-- A type owns its simple name if it is the owner of it. -/
theorem owns_iff : n.owns t ↔ n.owner? t.simpleName = some t := by
  simp [owns]

/-- In a new table the first type that claims a name owns it. -/
theorem owner?_claimAll_empty (package : String) (claims : List TypeName) (simple : String) :
    (claimAll ⟨package, []⟩ claims).owner? simple = claims.find? (·.simpleName = simple) := by
  rw [owner?_claimAll]
  rfl

theorem find?_eq_some_iff_firstClaim {claims : List TypeName} :
    claims.find? (·.simpleName = t.simpleName) = some t ↔ FirstClaim claims t := by
  rw [List.find?_eq_some_iff_append, FirstClaim]
  simp

/-- A type owns its name exactly if it is the first to claim it. -/
theorem owns_claimAll_iff (package : String) (claims : List TypeName) (t : TypeName) :
    (claimAll ⟨package, []⟩ claims).owns t ↔ FirstClaim claims t := by
  rw [owns_iff, owner?_claimAll_empty, find?_eq_some_iff_firstClaim]

/-! ## Imports and written names -/

theorem isVisible_eq_true_iff :
    n.isVisible t ↔ t.package = TypeName.langPackage ∨ t.package = n.package := by
  simp [isVisible, TypeName.isLang]

/-- A type is imported if it owns its name and is not visible by itself. -/
theorem isImported_iff :
    n.isImported t ↔ n.owner? t.simpleName = some t ∧ n.isVisible t = false := by
  rw [isImported, Bool.and_eq_true, owns_iff, Bool.not_eq_true']

theorem mem_imports_iff_isImported (h : n.Distinct) : t ∈ n.imports ↔ n.isImported t := by
  rw [mem_imports_iff h, isImported_iff]

theorem imports_simpleName_nodup (h : n.Distinct) : (n.imports.map TypeName.simpleName).Nodup := by
  have hperm : n.imports.Perm (n.owners.filter fun t => !n.isVisible t) := sortBy_perm _ _
  rw [(hperm.map _).nodup_iff]
  exact List.Nodup.sublist (List.filter_sublist.map _) h

/-- A type is written by its simple name if it owns the name, if it is visible and the
name is free, or if it has no other name. -/
theorem written_eq_simpleName_iff :
    n.written t = t.simpleName ↔
      n.owns t ∨ (n.isVisible t ∧ n.owner? t.simpleName = none) ∨ '.' ∉ t.name.toList := by
  have hfull : t.name = t.simpleName ↔ '.' ∉ t.name.toList := by
    constructor
    · intro h
      rw [h]
      exact t.dot_not_mem_simpleName
    · intro h
      exact (TypeName.name_eq_simpleName h).1.symm
  rw [owns_iff]
  cases ho : n.owner? t.simpleName with
  | none =>
      rw [written_of_free ho]
      cases n.isVisible t with
      | true => simp
      | false => simp [hfull]
  | some u =>
      by_cases hut : u = t
      · rw [hut] at ho ⊢
        simp [written_of_owner ho]
      · rw [written_of_other ho hut]
        simp [hfull, hut]

/-- A type is written by its simple name or in full. -/
theorem written_eq_simpleName_or_name (n : NameTable) (t : TypeName) :
    n.written t = t.simpleName ∨ n.written t = t.name := by
  rw [written]
  split
  · exact .inl rfl
  · split
    · exact .inl rfl
    · exact .inr rfl

/-- Where its simple name has an owner, a type with a dot is written by it only as the
owner. -/
theorem owns_of_written_eq_simpleName (ht : (n.owner? t.simpleName).isSome)
    (hdot : '.' ∈ t.name.toList) (h : n.written t = t.simpleName) : n.owns t := by
  rcases written_eq_simpleName_iff.mp h with howns | ⟨-, hfree⟩ | hno
  · exact howns
  · rw [hfree] at ht
    cases ht
  · exact absurd hdot hno

/-- Two types whose simple names have owners are told apart, if their full names have a
dot. -/
theorem written_inj_of_owners (ht : (n.owner? t.simpleName).isSome)
    (hu : (n.owner? u.simpleName).isSome) (hdt : '.' ∈ t.name.toList)
    (hdu : '.' ∈ u.name.toList) (h : n.written t = n.written u) : t = u := by
  rcases n.written_eq_simpleName_or_name t with htw | htw
  · rcases n.written_eq_simpleName_or_name u with huw | huw
    · have hsimple : t.simpleName = u.simpleName := by rw [← htw, h, huw]
      have hto := owns_of_written_eq_simpleName ht hdt htw
      have huo := owns_of_written_eq_simpleName hu hdu huw
      rw [owns_iff] at hto huo
      rw [hsimple, huo] at hto
      exact (Option.some.inj hto).symm
    · rw [htw, huw] at h
      exact absurd (h ▸ hdu) t.dot_not_mem_simpleName
  · rcases n.written_eq_simpleName_or_name u with huw | huw
    · rw [htw, huw] at h
      exact absurd (h ▸ hdt) u.dot_not_mem_simpleName
    · rw [htw, huw] at h
      exact TypeName.ext_name h

/-! ## The laws of a table -/

/-- In a table of a package, the first of some claims to a simple name has won. -/
structure FirstWins (n : NameTable) (package : String) (claims : List TypeName) : Prop where
  /-- The owners are the first claims. -/
  owns_iff : ∀ t, n.owns t ↔ FirstClaim claims t
  /-- The imports ascend strictly. -/
  imports_ascend : n.imports.Pairwise fun a b => a.name < b.name
  /-- No two imports share a simple name. -/
  imports_distinct : (n.imports.map TypeName.simpleName).Nodup
  /-- The imports are the imported types. -/
  mem_imports : ∀ t, t ∈ n.imports ↔ n.isImported t
  /-- An owner is imported unless it is visible by itself. -/
  imported_iff : ∀ t, n.isImported t ↔
    n.owns t ∧ t.package ≠ TypeName.langPackage ∧ t.package ≠ package
  /-- The simple name is written for an owner, for a visible type whose name is free, and
  for a type without another name. -/
  written_simple_iff : ∀ t, n.written t = t.simpleName ↔
    n.owns t ∨
    ((t.package = TypeName.langPackage ∨ t.package = package) ∧
      ∀ u ∈ claims, u.simpleName ≠ t.simpleName) ∨
    '.' ∉ t.name.toList
  /-- Otherwise the full name is written. -/
  written_or : ∀ t, n.written t = t.simpleName ∨ n.written t = t.name
  /-- Different types with a dot that made a claim have different names. -/
  written_inj : ∀ t ∈ claims, ∀ u ∈ claims, '.' ∈ t.name.toList → '.' ∈ u.name.toList →
    n.written t = n.written u → t = u

theorem firstWins_claimAll (package : String) (claims : List TypeName) :
    FirstWins (claimAll ⟨package, []⟩ claims) package claims := by
  have hdistinct : (claimAll ⟨package, []⟩ claims).Distinct :=
    (distinct_empty package).claimAll claims
  have howner := owner?_claimAll_empty package claims
  have howns := owns_claimAll_iff package claims
  have hpackage : (claimAll ⟨package, []⟩ claims).package = package := claimAll_package _ _
  generalize claimAll ⟨package, []⟩ claims = n at *
  refine ⟨howns, imports_pairwise_lt hdistinct, imports_simpleName_nodup hdistinct,
    fun t => mem_imports_iff_isImported hdistinct, ?_, ?_, ?_, ?_⟩
  · intro t
    rw [isImported_iff, owns_iff, ← Bool.not_eq_true, isVisible_eq_true_iff, hpackage, not_or]
  · intro t
    rw [written_eq_simpleName_iff, isVisible_eq_true_iff, hpackage, howner, List.find?_eq_none]
    simp
  · intro t
    exact n.written_eq_simpleName_or_name t
  · have hclaimed : ∀ t ∈ claims, (n.owner? t.simpleName).isSome := by
      intro t ht
      rw [howner, List.find?_isSome]
      exact ⟨t, ht, by simp⟩
    intro t ht u hu
    exact written_inj_of_owners (hclaimed t ht) (hclaimed u hu)

/-- After every history of calls the first claims have won, and later calls leave every
owner as it is. -/
theorem firstWins_runAll (package : String) (calls : List Call) :
    FirstWins (runAll ⟨package, []⟩ calls) package (calls.flatMap Call.types) ∧
      ∀ later t, (runAll ⟨package, []⟩ calls).owns t →
        (runAll ⟨package, []⟩ (calls ++ later)).owns t := by
  constructor
  · rw [runAll_eq_claimAll]
    exact firstWins_claimAll package _
  · intro later t h
    rw [runAll_append, owns_iff]
    exact owner?_runAll_of_some (owns_iff.mp h) later

end NameTable

end AuditAspects
