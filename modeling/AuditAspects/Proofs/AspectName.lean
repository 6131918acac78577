import AuditAspects.Contribution

/-!
# Names of aspects

The name of a type is cut at its last dot, wherever its dots are, and the two parts that make
it up with no dot in the second are its package and its simple name (`parts_of_append`).

An aspect stands in the package of its type, under the simple name of the type and an
ending (`package_aspect`, `simpleName_aspect`), so the two never share a simple name
(`simpleName_aspect_ne`).  `exists_nameParts` gathers this for every name that is not empty.
-/

namespace AuditAspects

namespace TypeName

/-- A name is cut at its last dot. -/
theorem parts_of_append {t : TypeName} {package simple : String}
    (ht : t.name = package ++ "." ++ simple) (h : '.' ∉ simple.toList) :
    t.package = package ∧ t.simpleName = simple := by
  have hcut : Text.cutLast '.' t.name.toList = some (package.toList, simple.toList) := by
    rw [Text.cutLast_eq_some_iff, ht]
    exact ⟨by simp, h⟩
  rw [TypeName.package, TypeName.simpleName, hcut]
  exact ⟨String.ofList_toList, String.ofList_toList⟩

/-- The characters of a simple name are characters of the name. -/
theorem mem_name_of_mem_simpleName (t : TypeName) {c : Char} (h : c ∈ t.simpleName.toList) :
    c ∈ t.name.toList := by
  by_cases hdot : '.' ∈ t.name.toList
  · rw [name_eq_package_simpleName hdot, String.toList_append]
    exact List.mem_append_right _ h
  · exact (name_eq_simpleName hdot).1 ▸ h

theorem mem_name_of_mem_package (t : TypeName) {c : Char} (h : c ∈ t.package.toList) :
    c ∈ t.name.toList := by
  by_cases hdot : '.' ∈ t.name.toList
  · rw [name_eq_package_simpleName hdot, String.toList_append, String.toList_append]
    exact List.mem_append_left _ (List.mem_append_left _ h)
  · rw [(name_eq_simpleName hdot).2] at h
    cases h

/-- An ending without the separator goes to the last part. -/
theorem cutLast_append {sep : Char} {cs ending : List Char} (h : sep ∉ ending) :
    Text.cutLast sep (cs ++ ending) =
      (Text.cutLast sep cs).map fun p => (p.1, p.2 ++ ending) := by
  cases hc : Text.cutLast sep cs with
  | none =>
      rw [Option.map_none, Text.cutLast_eq_none_iff, List.mem_append, not_or]
      exact ⟨Text.cutLast_eq_none_iff.mp hc, h⟩
  | some p =>
      obtain ⟨hcs, hsep⟩ := Text.cutLast_eq_some_iff.mp hc
      rw [Option.map_some, Text.cutLast_eq_some_iff, hcs]
      exact ⟨by simp, by simp [hsep, h]⟩

/-- The name of an aspect is cut where that of its type is. -/
theorem cutLast_aspect (t : TypeName) :
    Text.cutLast '.' t.aspect.name.toList =
      (Text.cutLast '.' t.name.toList).map fun p => (p.1, p.2 ++ aspectEnding.toList) := by
  rw [← cutLast_append (by decide), aspect, String.toList_append]

theorem package_aspect (t : TypeName) : t.aspect.package = t.package := by
  rw [package, package, cutLast_aspect]
  cases Text.cutLast '.' t.name.toList with
  | none => rfl
  | some p => rfl

/-- An aspect has the simple name of its type, with an ending. -/
theorem simpleName_aspect (t : TypeName) : t.aspect.simpleName = t.simpleName ++ aspectEnding := by
  rw [simpleName, simpleName, cutLast_aspect]
  cases Text.cutLast '.' t.name.toList with
  | none => rfl
  | some p =>
      apply String.toList_inj.mp
      simp

theorem simpleName_aspect_ne (t : TypeName) : t.aspect.simpleName ≠ t.simpleName := by
  rw [simpleName_aspect]
  intro h
  have hlength := congrArg String.length h
  have hending : aspectEnding.length = 6 := rfl
  rw [String.length_append] at hlength
  omega

theorem aspect_injective : Function.Injective aspect := by
  intro t u h
  apply ext_name
  have hnames : t.name ++ aspectEnding = u.name ++ aspectEnding := congrArg name h
  exact (String.append_left_inj aspectEnding).mp hnames

/-- How the name of a type falls into parts, and the name of its aspect with it. -/
structure NameParts (t : TypeName) : Prop where
  /-- The simple name holds no dot. -/
  dot_not_mem : '.' ∉ t.simpleName.toList
  /-- A name without a dot is its own simple name, in the default package. -/
  undotted : '.' ∉ t.name.toList → t.name = t.simpleName ∧ t.package = ""
  /-- A name with a dot is made of its package, a dot and its simple name. -/
  dotted : '.' ∈ t.name.toList → t.name = t.package ++ "." ++ t.simpleName
  /-- It is made of no other two parts so that the second holds no dot. -/
  unique : ∀ package simple, t.name = package ++ "." ++ simple → '.' ∉ simple.toList →
    t.package = package ∧ t.simpleName = simple
  /-- The aspect is the type whose name has the ending. -/
  aspect_named : ofValue (.text (t.name ++ "_Audit")) = .ok t.aspect
  /-- The aspect is in the package of the type. -/
  aspect_package : t.aspect.package = t.package
  /-- The ending goes to the simple name. -/
  aspect_simpleName : t.aspect.simpleName = t.simpleName ++ "_Audit"
  /-- No other type has the same aspect. -/
  aspect_inj : ∀ u : TypeName, u.aspect = t.aspect → u = t
  /-- The aspect does not share the simple name of the type. -/
  aspect_apart : t.aspect.simpleName ≠ t.simpleName

theorem ofValue_name (t : TypeName) : ofValue (.text t.name) = .ok t := by
  rw [ofValue, ofString?_name]

/-- Every name that is not empty is the name of a type, and falls into parts. -/
theorem exists_nameParts (n : String) (h : n ≠ "") :
    ∃ t, ofValue (.text n) = .ok t ∧ t.name = n ∧ NameParts t := by
  let t : TypeName := ⟨n, h⟩
  refine ⟨t, t.ofValue_name, rfl, ?_⟩
  exact
    { dot_not_mem := t.dot_not_mem_simpleName
      undotted := by
        intro hdot
        obtain ⟨hsimple, hpackage⟩ := name_eq_simpleName hdot
        exact ⟨hsimple.symm, hpackage⟩
      dotted := name_eq_package_simpleName
      unique := fun _ _ hname hdot => parts_of_append hname hdot
      aspect_named := t.aspect.ofValue_name
      aspect_package := t.package_aspect
      aspect_simpleName := t.simpleName_aspect
      aspect_inj := fun _ hsame => aspect_injective hsame
      aspect_apart := t.simpleName_aspect_ne }

/-- A name that begins and ends with a dot has an empty simple name. -/
theorem exists_nameParts_dots :
    ".a..B." ≠ "" ∧ ∃ t, ofValue (.text ".a..B.") = .ok t ∧ t.name = ".a..B." ∧ NameParts t ∧
      t.package = ".a..B" ∧ t.simpleName = "" ∧ t.aspect.simpleName = "_Audit" := by
  have hne : ".a..B." ≠ "" := by decide
  obtain ⟨t, hnamed, hname, hparts⟩ := exists_nameParts ".a..B." hne
  obtain ⟨hpackage, hsimple⟩ := hparts.unique ".a..B" "" hname (by decide)
  refine ⟨hne, t, hnamed, hname, hparts, hpackage, hsimple, ?_⟩
  rw [hparts.aspect_simpleName, hsimple]
  rfl

end TypeName

end AuditAspects
