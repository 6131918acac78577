import AuditAspects.Contract
import AuditAspects.Proofs.AspectName

/-!
# Names of entities

The type of an entity is named after its package and its class.  Both are read back from
the type if the class holds no dot, and a type that has a package wherever its name has a
dot is known by the two (`TypeName.ext_of_parts`).  A package that counts as given has a
text that is not empty (`Value.plain_ne`), so no type begins with the dot of a package that
is missing.
-/

namespace AuditAspects

/-! ## Texts of values -/

theorem Decimal.text_ne (d : Decimal) : d.text ≠ "" := by
  rw [Decimal.text]
  intro h
  have hlist := congrArg String.toList h
  simp only [String.toList_append, String.toList_ofList, String.toList_empty,
    List.append_eq_nil_iff] at hlist
  have hbody := hlist.2
  split at hbody
  · exact absurd hbody (by decide)
  · split at hbody
    · split at hbody
      · simp at hbody
      · split at hbody
        · simp at hbody
        · simp at hbody
    · simp at hbody

theorem RealNumber.text_ne (r : RealNumber) : r.text ≠ "" := by
  cases r with
  | finite d => exact d.text_ne
  | infinite negative => cases negative <;> decide
  | undefined => decide

namespace Value

theorem append_ne {s t : String} (h : s ≠ "") : s ++ t ≠ "" := by
  simp [h]

/-- A value that counts as given has a text. -/
theorem plain_ne {v : Value} (h : v.isEmpty = false) : v.plain ≠ "" := by
  cases v with
  | null => cases h
  | bool b =>
      cases b with
      | false => cases h
      | true => decide
  | int i =>
      cases i with
      | ofNat n => exact Nat.repr_ne_empty
      | negSucc n => exact append_ne (by decide)
  | real r => exact r.text_ne
  | text s => simpa [isEmpty, plain] using h
  | list xs => exact append_ne (append_ne (by decide))
  | object es => exact append_ne (append_ne (by decide))
  | path s => exact Location.text_ofText_ne s
  | other kindName path? => exact append_ne (append_ne (by decide))

/-- The text of a package, which may be none. -/
def packageText (v : Value) : String := if v.isEmpty then "" else v.plain

end Value

/-! ## Types by their parts -/

namespace TypeName

/-- Wherever the name of a type has a dot, the type has a package. -/
def Placed (t : TypeName) : Prop := '.' ∈ t.name.toList → t.package ≠ ""

/-- The name of a placed type is made of its package and its simple name. -/
theorem name_of_placed {t : TypeName} (h : t.Placed) :
    t.name = if t.package = "" then t.simpleName else t.package ++ "." ++ t.simpleName := by
  by_cases hdot : '.' ∈ t.name.toList
  · rw [if_neg (h hdot)]
    exact name_eq_package_simpleName hdot
  · obtain ⟨hsimple, hpackage⟩ := name_eq_simpleName hdot
    rw [if_pos hpackage, hsimple]

theorem ext_of_parts {a b : TypeName} (ha : a.Placed) (hb : b.Placed)
    (hpackage : a.package = b.package) (hsimple : a.simpleName = b.simpleName) : a = b := by
  apply ext_name
  rw [name_of_placed ha, name_of_placed hb, hpackage, hsimple]

end TypeName

/-! ## Types of contracts -/

namespace Contract

variable {c : Contract} {t : TypeName}

/-- Whatever a class answers itself for its type has no name. -/
theorem type_of_answered {answer : Except Fault Value} (h : c.answer? .type = some answer) :
    c.type = answer >>= fun v => .error (.operationMissing v.kindName TypeName.nameOperation) := by
  rw [type, offeredType]
  simp only [h]
  cases answer <;> rfl

/-- The type of any other class is made of its package. -/
theorem type_of_unanswered (h : c.answer? .type = none) : c.type = c.package >>= c.typeIn := by
  rw [type, offeredType]
  simp only [h]
  cases c.package with
  | error f => rfl
  | ok v =>
      simp only [bind, Except.bind]
      cases c.typeIn v <;> rfl

/-- A contract that has a type answers for its package. -/
theorem exists_package_of_type (h : c.type = .ok t) :
    ∃ v, c.package = .ok v ∧ c.typeIn v = .ok t := by
  cases hanswer : c.answer? .type with
  | some answer =>
      rw [type_of_answered hanswer] at h
      cases answer <;> cases h
  | none =>
      rw [type_of_unanswered hanswer] at h
      cases hpackage : c.package with
      | error f =>
          rw [hpackage] at h
          cases h
      | ok v =>
          rw [hpackage] at h
          exact ⟨v, rfl, h⟩

/-- The type of a contract is named by its package and its class. -/
theorem name_of_typeIn {v : Value} (h : c.typeIn v = .ok t) :
    t.name = if v.isEmpty then c.name else v.plain ++ "." ++ c.name := by
  rw [typeIn, TypeName.ofValue] at h
  cases ht : TypeName.ofString? (if v.isEmpty then c.name else v.plain ++ "." ++ c.name) with
  | none =>
      rw [ht] at h
      cases h
  | some u =>
      rw [ht] at h
      cases h
      exact TypeName.ofString?_eq_some_iff.mp ht

/-- The package and the class of a contract are read back from its type, if the class holds
no dot. -/
theorem parts_of_type (h : c.type = .ok t) (hdot : '.' ∉ c.name.toList) :
    t.simpleName = c.name ∧ t.Placed ∧ ∃ v, c.package = .ok v ∧ t.package = v.packageText := by
  obtain ⟨v, hv, htype⟩ := exists_package_of_type h
  have hname := name_of_typeIn htype
  cases hempty : v.isEmpty with
  | true =>
      rw [if_pos hempty] at hname
      rw [← hname] at hdot
      obtain ⟨hsimple, hpackage⟩ := TypeName.name_eq_simpleName hdot
      refine ⟨hsimple.trans hname, fun hmem => absurd hmem hdot, v, hv, ?_⟩
      rw [Value.packageText, if_pos hempty, hpackage]
  | false =>
      rw [hempty] at hname
      obtain ⟨hpackage, hsimple⟩ := TypeName.parts_of_append hname hdot
      refine ⟨hsimple, fun _ => ?_, v, hv, ?_⟩
      · rw [hpackage]
        exact Value.plain_ne hempty
      · rw [Value.packageText, hempty, hpackage]
        rfl

end Contract

end AuditAspects
