import AuditAspects.Proofs.UnitPaths
import AuditAspects.Proofs.WrittenUnits

/-!
# The output tree

A run writes units under the output directory.  Their paths begin with the directory of
sources, which a setting gives.  If that is a relative path that does not lead upwards, all
files stay inside the output directory, with one exception: behind an empty text the path of
a unit begins with a slash, and then the output directory does not count (`confinement`).
-/

namespace AuditAspects

namespace Session

open Step

/-! ## What a run changes -/

section Run

variable {output : Option Location} {s : Session} {sourceRoot : String}

/-- What is rendered has the path of an aspect. -/
theorem exists_aspect_of_rendered {rendered : Rendered} (h : generate.result s = .ok rendered)
    (hsources : (opening.after s).setting .sourceRoot = .text sourceRoot)
    {u : String × String} (hu : u ∈ rendered) :
    ∃ aspect, u.1 = unitPathUnder sourceRoot aspect := by
  obtain ⟨es, units, -, hunits, rfl⟩ := generate_eq_ok h
  have hmem : u ∈ units := (mem_putUnits hu).resolve_left List.not_mem_nil
  obtain ⟨e, -, he⟩ := (mem_unitsOf_iff hunits).mp hmem
  obtain ⟨k, -, hpath, -⟩ := unitOf_eq_ok he
  rw [unitPath_of_text hsources] at hpath
  exact ⟨k.aspect, (Except.ok.inj hpath).symm⟩

/-- A file that a run changes is that of a unit, however the run ends. -/
theorem exists_unit_of_changed {l : Location}
    (h : ((write output).after s).tree.read? l ≠ s.tree.read? l) :
    ∃ rendered base u, generate.result s = .ok rendered ∧
      (generate.after s).outputBase output = .ok base ∧ u ∈ rendered ∧
      l.resolve = (base.child u.1).resolve := by
  have hunit : ∀ (base : Location) (units : Rendered),
      (s.tree.placeAll base units).read? l ≠ s.tree.read? l →
        ∃ u ∈ units, l.resolve = (base.child u.1).resolve := by
    intro base units hne
    by_contra hnone
    refine hne (FileTree.read?_placeAll_of_not_mem (fun u hu heq => hnone ⟨u, hu, heq⟩) _)
  cases hwrite : (write output).result s with
  | ok places =>
      obtain ⟨rendered, base, hgenerate, hbase, -, -, htree⟩ := write_eq_ok hwrite
      rw [htree] at h
      obtain ⟨u, hu, hl⟩ := hunit base rendered h
      exact ⟨rendered, base, u, hgenerate, hbase, hu, hl⟩
  | error f =>
      rcases write_eq_error hwrite with htree | ⟨rendered, base, hgenerate, hbase, hfailed, htree⟩
      · exact absurd (by rw [htree]) h
      · obtain ⟨before, v, after, rfl, -, -, hleft⟩ := writeAll_eq_error hfailed
        rw [htree, hleft, tree_after_generate] at h
        by_cases hv : l.resolve = (base.child v.1).resolve
        · exact ⟨_, base, v, hgenerate, hbase, List.mem_append_right _ List.mem_cons_self, hv⟩
        · rw [FileTree.read?_spoil_of_ne hv] at h
          obtain ⟨u, hu, hl⟩ := hunit base before h
          exact ⟨_, base, u, hgenerate, hbase, List.mem_append_left _ hu, hl⟩

end Run

/-! ## Staying in the tree -/

/-- The path of a unit stays inside every directory it is seen from, if the directory of
sources is neither empty nor leads out. -/
theorem isWithin_unitPathUnder {sourceRoot : String}
    (hrelative : (Location.ofText sourceRoot).isAbsolute = false)
    (hupward : ".." ∉ (Location.ofText sourceRoot).parts) (hne : sourceRoot ≠ "")
    (aspect : TypeName) (base : Location) :
    (base.child (unitPathUnder sourceRoot aspect)).resolve.isWithin base.resolve ∧
      (base.child (unitPathUnder sourceRoot aspect)).resolve ≠ base.resolve := by
  have hpath : (Location.ofText (unitPathUnder sourceRoot aspect)).isAbsolute = false := by
    rw [← Bool.not_eq_true, isAbsolute_unitPathUnder_iff]
    simp [hne, hrelative]
  have hparts : ".." ∉ (Location.ofText (unitPathUnder sourceRoot aspect)).parts :=
    upward_mem_unitPathUnder_iff.not.mpr hupward
  exact ⟨Location.isWithin_child hpath hparts base,
    Location.resolve_child_ne hpath hparts base (parts_unitPathUnder_ne_nil sourceRoot aspect)⟩

/-- How far the files of projects with a given directory of sources stay in their output
tree. -/
structure Confinement (sourceRoot : String) : Prop where
  /-- The path of a unit is relative, unless the directory of sources is empty. -/
  relative_iff : ∀ (s : Session) (aspect : TypeName),
    s.setting .sourceRoot = .text sourceRoot →
    ∃ path, s.unitPath aspect = .ok path ∧
      ((Location.ofText path).isAbsolute = false ↔ sourceRoot ≠ "")
  /-- Unless it is empty, all files that a run changes are under the given or configured
  output directory, also if the run fails. -/
  changed : sourceRoot ≠ "" → ∀ (s : Session) (output : Option Location),
    (opening.after s).setting .sourceRoot = .text sourceRoot →
    ∀ l, ((write output).after s).tree.read? l ≠ s.tree.read? l →
      ∃ base, (opening.after s).outputBase output = .ok base ∧
        l.resolve.isWithin base.resolve ∧ l.resolve ≠ base.resolve
  /-- So are all places that a run reports. -/
  reported : sourceRoot ≠ "" → ∀ (s : Session) (output : Option Location),
    (opening.after s).setting .sourceRoot = .text sourceRoot →
    ∀ places, (write output).result s = .ok places →
      ∃ base, (opening.after s).outputBase output = .ok base ∧
        ∀ l ∈ places, l.resolve.isWithin base.resolve ∧ l.resolve ≠ base.resolve
  /-- If it is empty, units have the same places whatever the output directory is. -/
  discarded : sourceRoot = "" → ∀ (aspect : TypeName) (base : Location),
    base.child (unitPathUnder sourceRoot aspect) =
      Location.ofText (unitPathUnder sourceRoot aspect)

/-- A directory of sources that is relative and does not lead upwards confines files to the
output tree, unless it is empty. -/
theorem confinement {sourceRoot : String}
    (hrelative : (Location.ofText sourceRoot).isAbsolute = false)
    (hupward : ".." ∉ (Location.ofText sourceRoot).parts) : Confinement sourceRoot where
  relative_iff := by
    intro s aspect hsources
    refine ⟨_, unitPath_of_text hsources aspect, ?_⟩
    rw [← Bool.not_eq_true, isAbsolute_unitPathUnder_iff]
    simp [hrelative]
  changed := by
    intro hne s output hsources l hl
    obtain ⟨rendered, base, u, hgenerate, hbase, hu, hplace⟩ := exists_unit_of_changed hl
    obtain ⟨es, units, hopening, -, -⟩ := generate_eq_ok hgenerate
    obtain ⟨aspect, haspect⟩ := exists_aspect_of_rendered hgenerate hsources hu
    rw [outputBase_after_generate output hopening] at hbase
    rw [hplace, haspect]
    exact ⟨base, hbase, isWithin_unitPathUnder hrelative hupward hne aspect base⟩
  reported := by
    intro hne s output hsources places hwrite
    obtain ⟨rendered, base, hgenerate, hbase, rfl, -, -⟩ := write_eq_ok hwrite
    obtain ⟨es, units, hopening, -, -⟩ := generate_eq_ok hgenerate
    rw [outputBase_after_generate output hopening] at hbase
    refine ⟨base, hbase, fun l hl => ?_⟩
    obtain ⟨u, hu, rfl⟩ := List.mem_map.mp hl
    obtain ⟨aspect, haspect⟩ := exists_aspect_of_rendered hgenerate hsources hu
    rw [haspect]
    exact isWithin_unitPathUnder hrelative hupward hne aspect base
  discarded := by
    intro hempty aspect base
    rw [Location.child, Location.join,
      isAbsolute_unitPathUnder_iff.mpr (.inl hempty), if_pos rfl]

/-- A unit that can be encoded, and has a place, is written there. -/
theorem read?_write_single {s : Session} {output : Option Location} {base l : Location}
    {path : String} (hpaths : (generate.result s).toOption.map (·.map Prod.fst) = some [path])
    (hencodes : ((opening.result s).toOption.getD []).all (fun e =>
      ((contribution e.2).result (opening.after s)).toOption.all
        fun k => decide (k.Encodes .strict)) = true)
    (hbase : (generate.after s).outputBase output = .ok base)
    (hplace : (base.child path).fault? = none)
    (hl : l.resolve = (base.child path).resolve) :
    (((write output).after s).tree.read? l).isSome = true := by
  obtain ⟨rendered, hgenerate, hfst, hclean⟩ := exists_rendered hpaths hencodes
  obtain ⟨u, rfl, hu⟩ := List.map_eq_singleton_iff.mp hfst
  rw [← hu] at hplace hl
  have hunits : ∀ v ∈ [u], (base.child v.1).writeFault? v.2 = none := by
    intro v hv
    rw [List.mem_singleton.mp hv]
    exact Location.writeFault?_of_encodes hplace (hclean u List.mem_cons_self)
  rw [(result_write_of_clean hgenerate hbase hunits).2, FileTree.placeAll, List.foldl_cons,
    List.foldl_nil, FileTree.read?_place, if_pos hl]
  rfl

/-- A project with one entity. -/
def oneEntity : Session := ofModules [("a.py", [auditedClass "A" "a"])]

/-- The unit of the one entity is written under the output directory. -/
theorem confinement_oneEntity :
    (Location.ofText "src/main/java").isAbsolute = false ∧
      ".." ∉ (Location.ofText "src/main/java").parts ∧
      (((write (some (.ofText "out"))).after oneEntity).tree.read?
        (.ofText "out/src/main/java/a/A_Audit.aj")).isSome ∧
      (Location.ofText "out/src/main/java/a/A_Audit.aj").resolve.isWithin
        (Location.ofText "out").resolve := by
  have hrelative : (Location.ofText "src/main/java").isAbsolute = false := by decide +kernel
  have hupward : ".." ∉ (Location.ofText "src/main/java").parts := by decide +kernel
  have hsources : (opening.after oneEntity).setting .sourceRoot = .text "src/main/java" := rfl
  have hnew : (oneEntity.tree.read? (.ofText "out/src/main/java/a/A_Audit.aj")).isSome = false := by
    decide +kernel
  have hpaths : (generate.result oneEntity).toOption.map (·.map Prod.fst) =
      some ["src/main/java/a/A_Audit.aj"] := by
    decide +kernel
  have hencodes : ((opening.result oneEntity).toOption.getD []).all (fun e =>
      ((contribution e.2).result (opening.after oneEntity)).toOption.all
        fun k => decide (k.Encodes .strict)) = true := by
    decide +kernel
  have hplace : ((Location.ofText "out").child "src/main/java/a/A_Audit.aj").fault? = none ∧
      (Location.ofText "out/src/main/java/a/A_Audit.aj").resolve =
        ((Location.ofText "out").child "src/main/java/a/A_Audit.aj").resolve := by
    decide +kernel
  have hwritten : (((write (some (.ofText "out"))).after oneEntity).tree.read?
      (.ofText "out/src/main/java/a/A_Audit.aj")).isSome :=
    read?_write_single hpaths hencodes rfl hplace.1 hplace.2
  refine ⟨hrelative, hupward, hwritten, ?_⟩
  obtain ⟨base, hbase, hwithin, -⟩ := (confinement hrelative hupward).changed (by decide) oneEntity
    (some (.ofText "out")) hsources (.ofText "out/src/main/java/a/A_Audit.aj") fun heq => by
      rw [heq, hnew] at hwritten
      cases hwritten
  cases hbase
  exact hwithin

/-- A project with one entity and an empty directory of sources. -/
def emptySources : Session :=
  { oneEntity with environment := [(Setting.sourceRoot.variableName, "")] }

/-- An empty directory of sources is relative and does not lead upwards, but units are
written outside the output directory. -/
theorem write_emptySources :
    (opening.after emptySources).setting .sourceRoot = .text "" ∧
      (Location.ofText "").isAbsolute = false ∧ ".." ∉ (Location.ofText "").parts ∧
      ((opening.after emptySources).unitPath ⟨"a.A_Audit", by decide⟩).toOption =
        some "/a/A_Audit.aj" ∧
      (emptySources.tree.read? (.ofText "/a/A_Audit.aj")).isSome = false ∧
      (((write (some (.ofText "out"))).after emptySources).tree.read?
        (.ofText "/a/A_Audit.aj")).isSome = true ∧
      (Location.ofText "/a/A_Audit.aj").resolve.isWithin (Location.ofText "out").resolve =
        false := by
  have hpaths : (generate.result emptySources).toOption.map (·.map Prod.fst) =
      some ["/a/A_Audit.aj"] := by
    decide +kernel
  have hencodes : ((opening.result emptySources).toOption.getD []).all (fun e =>
      ((contribution e.2).result (opening.after emptySources)).toOption.all
        fun k => decide (k.Encodes .strict)) = true := by
    decide +kernel
  have hplace : ((Location.ofText "out").child "/a/A_Audit.aj").fault? = none ∧
      (Location.ofText "/a/A_Audit.aj").resolve =
        ((Location.ofText "out").child "/a/A_Audit.aj").resolve := by
    decide +kernel
  refine ⟨rfl, ?_, ?_, ?_, ?_, ?_, ?_⟩
  · decide +kernel
  · decide +kernel
  · decide +kernel
  · decide +kernel
  · exact read?_write_single hpaths hencodes rfl hplace.1 hplace.2
  · decide +kernel

end Session

end AuditAspects
