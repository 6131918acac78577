import AuditAspects.Project.Generation
import AuditAspects.Proofs.AspectName

/-!
# Paths of units

The path of a unit is a directory of sources and, behind a slash, the names of the packages
and of the file (`unitPathUnder_eq`).

*Where it starts.*  A path starts at a root exactly if its directory of sources does or is
empty (`isAbsolute_unitPathUnder_iff`): then the slash comes first.

*Where it leads.*  A package is cut at its dots, and the name of a file has one dot, so only
the directory of sources can lead upwards (`upward_mem_unitPathUnder_iff`).  A relative path
that does not lead upwards stays inside the directory it is seen from (`isWithin_child`).

*Which unit it is.*  Names without slashes are read back from a path, and so are the package
and the simple name (`unitPathUnder_inj`).
-/

namespace AuditAspects

/-! ## Reading locations -/

namespace Location

/-- A path starts at a root exactly if it begins with a slash. -/
theorem isAbsolute_ofText_iff {s : String} :
    (ofText s).isAbsolute ↔ s.toList.head? = some '/' := by
  rw [isAbsolute, ofText, rootOf, separator]
  cases s.toList with
  | nil => simp
  | cons c cs =>
      by_cases hc : c = '/'
      · simp only [hc, decide_true, List.takeWhile_cons_of_pos, List.length_cons,
          decide_not, Bool.not_eq_eq_eq_not, Bool.not_true, decide_eq_false_iff_not,
          List.head?_cons, iff_true]
        split <;> simp_all
      · simp [hc]

/-- Joined paths lead through the segments of each. -/
theorem parts_ofText_intercalate (paths : List String) :
    (ofText ("/".intercalate paths)).parts = paths.flatMap fun path => (ofText path).parts := by
  cases paths with
  | nil => decide
  | cons path paths =>
      have hne : (path :: paths).map String.toList ≠ [] := List.cons_ne_nil _ _
      have hseparator : "/".toList = ['/'] := rfl
      simp only [ofText, separator, String.toList_intercalate, hseparator,
        Text.segments_intercalate '/' hne, List.map_flatMap, List.filter_flatMap,
        List.flatMap_map]

/-- A segment is made of characters of its path, in their order. -/
theorem sublist_of_mem_parts {s part : String} (h : part ∈ (ofText s).parts) :
    part.toList.Sublist s.toList := by
  obtain ⟨hmem, -⟩ := List.mem_filter.mp h
  obtain ⟨segment, hsegment, rfl⟩ := List.mem_map.mp hmem
  rw [String.toList_ofList]
  exact Text.sublist_of_mem_segments hsegment

/-- A path with a character that is no slash and no dot has a segment. -/
theorem parts_ne_nil {s : String} {c : Char} (h : c ∈ s.toList) (hslash : c ≠ '/')
    (hdot : c ≠ '.') : (ofText s).parts ≠ [] := by
  obtain ⟨segment, hsegment, hc⟩ := Text.exists_mem_segments h hslash
  refine List.ne_nil_of_mem (a := String.ofList segment) (List.mem_filter.mpr ⟨?_, ?_⟩)
  · exact List.mem_map_of_mem hsegment
  · have hempty : String.ofList segment ≠ "" := by
      rintro heq
      rw [← String.toList_eq_nil_iff, String.toList_ofList] at heq
      exact List.ne_nil_of_mem hc heq
    have hone : String.ofList segment ≠ "." := by
      rintro heq
      have hlist := congrArg String.toList heq
      rw [String.toList_ofList] at hlist
      rw [hlist] at hc
      exact hdot (List.mem_singleton.mp hc)
    simp [hempty, hone]

/-- Two dots lead upwards, so one is not enough. -/
theorem upward_not_mem_parts {s : String} (h : s.toList.count '.' ≤ 1) :
    ".." ∉ (ofText s).parts := by
  intro hmem
  have hcount := (sublist_of_mem_parts hmem).count_le '.'
  have htwo : "..".toList.count '.' = 2 := rfl
  omega

/-! ## Staying inside -/

theorem foldl_resolvePart {absolute : Bool} {parts : List String} (h : ".." ∉ parts)
    (reversed : List String) :
    parts.foldl (resolvePart absolute) reversed = parts.reverse ++ reversed := by
  induction parts generalizing reversed with
  | nil => rfl
  | cons part parts ih =>
      rw [List.mem_cons, not_or] at h
      obtain ⟨hpart, hparts⟩ := h
      have hpushed : resolvePart absolute reversed part = part :: reversed :=
        if_neg (Ne.symm hpart)
      rw [List.foldl_cons, hpushed, ih hparts, List.reverse_cons, List.append_assoc,
        List.singleton_append]

section Inside

variable {path : String} (hrelative : (ofText path).isAbsolute = false)
  (hupward : ".." ∉ (ofText path).parts) (base : Location)
include hrelative

theorem child_of_relative :
    base.child path = { base with parts := base.parts ++ (ofText path).parts } := by
  rw [child, join, hrelative]
  rfl

include hupward

/-- What does not lead upwards comes behind the directory it is seen from. -/
theorem resolve_child :
    (base.child path).resolve =
      { base.resolve with parts := base.resolve.parts ++ (ofText path).parts } := by
  have habsolute : (base.child path).isAbsolute = base.isAbsolute := by
    rw [child_of_relative hrelative]
    rfl
  rw [resolve, habsolute, child_of_relative hrelative, List.foldl_append,
    foldl_resolvePart hupward, List.reverse_append, List.reverse_reverse]
  rfl

/-- A relative path that does not lead upwards stays inside the directory that it is seen from.
-/
theorem isWithin_child : (base.child path).resolve.isWithin base.resolve := by
  rw [resolve_child hrelative hupward, isWithin]
  have hhead : (ofText path).parts.head? ≠ some ".." := fun h =>
    hupward (List.mem_of_mem_head? h)
  simp [List.isPrefixOf_iff_prefix, hhead]

/-- With a segment it does not lead to that directory itself. -/
theorem resolve_child_ne (hparts : (ofText path).parts ≠ []) :
    (base.child path).resolve ≠ base.resolve := by
  rw [resolve_child hrelative hupward]
  intro heq
  have happend := congrArg Location.parts heq
  exact hparts (by simpa using happend)

end Inside

end Location

/-! ## The parts of a path -/

/-- The names that lead from the directory of sources to the unit of an aspect. -/
def TypeName.pathParts (aspect : TypeName) : List String :=
  Session.packageParts aspect.package ++ [aspect.simpleName ++ unitEnding]

namespace Session

/-- The path of a unit is the directory of sources with the parts of the aspect's name behind
it. -/
theorem unitPathUnder_eq (sourceRoot : String) (aspect : TypeName) :
    unitPathUnder sourceRoot aspect = sourceRoot ++ "/" ++ "/".intercalate aspect.pathParts := by
  have hne : aspect.pathParts ≠ [] := List.append_ne_nil_of_right_ne_nil _ (List.cons_ne_nil _ _)
  rw [unitPathUnder, List.cons_append, ← TypeName.pathParts, String.intercalate_cons_of_ne_nil hne]

/-- A path starts at a root if its directory of sources does, or if nothing stands before
its first slash. -/
theorem isAbsolute_unitPathUnder_iff {sourceRoot : String} {aspect : TypeName} :
    (Location.ofText (unitPathUnder sourceRoot aspect)).isAbsolute ↔
      sourceRoot = "" ∨ (Location.ofText sourceRoot).isAbsolute := by
  rw [Location.isAbsolute_ofText_iff, Location.isAbsolute_ofText_iff, unitPathUnder_eq,
    ← String.toList_eq_nil_iff, String.toList_append, String.toList_append]
  cases sourceRoot.toList with
  | nil => simp
  | cons c cs => simp

theorem dot_not_mem_packageParts {package part : String} (h : part ∈ packageParts package) :
    '.' ∉ part.toList := by
  rw [packageParts] at h
  split at h
  · exact absurd h List.not_mem_nil
  · obtain ⟨segment, hsegment, rfl⟩ := List.mem_map.mp h
    rw [String.toList_ofList]
    exact Text.not_mem_of_mem_segments hsegment

/-- No name on the way to a unit has two dots. -/
theorem count_dot_pathParts {aspect : TypeName} {part : String} (h : part ∈ aspect.pathParts) :
    part.toList.count '.' ≤ 1 := by
  rcases List.mem_append.mp h with h | h
  · rw [List.count_eq_zero_of_not_mem (dot_not_mem_packageParts h)]
    exact Nat.zero_le 1
  · have hending : unitEnding.toList.count '.' = 1 := rfl
    have hname : aspect.simpleName.toList.count '.' = 0 :=
      List.count_eq_zero_of_not_mem aspect.dot_not_mem_simpleName
    rw [List.mem_singleton.mp h, String.toList_append, List.count_append]
    omega

/-- Only the directory of sources can lead upwards. -/
theorem upward_mem_unitPathUnder_iff {sourceRoot : String} {aspect : TypeName} :
    ".." ∈ (Location.ofText (unitPathUnder sourceRoot aspect)).parts ↔
      ".." ∈ (Location.ofText sourceRoot).parts := by
  rw [unitPathUnder, Location.parts_ofText_intercalate, List.cons_append, List.flatMap_cons,
    List.mem_append, ← TypeName.pathParts, or_iff_left]
  intro h
  obtain ⟨part, hpart, hmem⟩ := List.mem_flatMap.mp h
  exact Location.upward_not_mem_parts (count_dot_pathParts hpart) hmem

/-- A path leads to a file of its own. -/
theorem parts_unitPathUnder_ne_nil (sourceRoot : String) (aspect : TypeName) :
    (Location.ofText (unitPathUnder sourceRoot aspect)).parts ≠ [] := by
  have hfile : aspect.simpleName ++ unitEnding ∈ sourceRoot :: aspect.pathParts :=
    List.mem_cons_of_mem _ (List.mem_append_right _ List.mem_cons_self)
  have hletter : 'j' ∈ (aspect.simpleName ++ unitEnding).toList := by
    rw [String.toList_append]
    exact List.mem_append_right _ (by decide)
  rw [unitPathUnder, Location.parts_ofText_intercalate, List.cons_append, ← TypeName.pathParts]
  exact fun hnil => Location.parts_ne_nil hletter (by decide) (by decide)
    (List.flatMap_eq_nil_iff.mp hnil _ hfile)

/-! ## Reading a path back -/

theorem packageParts_inj {p q : String} (h : packageParts p = packageParts q) : p = q := by
  have hsegments : ∀ package : String, package ≠ "" →
      [ '.' ].intercalate ((packageParts package).map String.toList) = package.toList := by
    intro package hne
    rw [packageParts, if_neg hne, List.map_map]
    simpa [Function.comp_def] using Text.intercalate_segments '.' package.toList
  have hempty : ∀ package : String, packageParts package = [] ↔ package = "" := by
    intro package
    rw [packageParts]
    split
    next hp => simp [hp]
    next hp => simp [hp, Text.segments_ne_nil]
  by_cases hp : p = ""
  · rw [hp, (hempty "").mpr rfl, eq_comm, hempty] at h
    rw [hp, h]
  · have hq : q ≠ "" := fun hq => hp ((hempty p).mp (h.trans ((hempty q).mpr hq)))
    apply String.toList_inj.mp
    rw [← hsegments p hp, ← hsegments q hq, h]

/-- The parts of a path determine the package and the simple name. -/
theorem pathParts_inj {a b : TypeName} (h : a.pathParts = b.pathParts) :
    a.package = b.package ∧ a.simpleName = b.simpleName := by
  obtain ⟨hpackage, hfile⟩ := List.append_inj' h rfl
  refine ⟨packageParts_inj hpackage, ?_⟩
  have hnames := congrArg String.toList (List.cons.inj hfile).1
  rw [String.toList_append, String.toList_append] at hnames
  exact String.toList_inj.mp (List.append_cancel_right hnames)

/-- A type whose package and whose simple name hold no slash. -/
def NoSlash (t : TypeName) : Prop := '/' ∉ t.package.toList ∧ '/' ∉ t.simpleName.toList

theorem slash_not_mem_pathParts {aspect : TypeName} (h : NoSlash aspect) {part : String}
    (hpart : part ∈ aspect.pathParts) : '/' ∉ part.toList := by
  rcases List.mem_append.mp hpart with hpart | hpart
  · rw [packageParts] at hpart
    split at hpart
    · exact absurd hpart List.not_mem_nil
    · obtain ⟨segment, hsegment, rfl⟩ := List.mem_map.mp hpart
      rw [String.toList_ofList]
      exact fun hmem => h.1 ((Text.sublist_of_mem_segments hsegment).subset hmem)
  · rw [List.mem_singleton.mp hpart, String.toList_append, List.mem_append, not_or]
    exact ⟨h.2, by decide⟩

/-- Names without slashes are the segments of their path. -/
theorem segments_pathParts {aspect : TypeName} (h : NoSlash aspect) :
    Text.segments '/' ("/".intercalate aspect.pathParts).toList =
      aspect.pathParts.map String.toList := by
  have hne : aspect.pathParts.map String.toList ≠ [] := by
    simp [TypeName.pathParts]
  have hseparator : "/".toList = ['/'] := rfl
  have hone : aspect.pathParts.map (fun part => Text.segments '/' part.toList) =
      aspect.pathParts.map fun part => [part.toList] :=
    List.map_congr_left fun part hpart =>
      Text.segments_of_not_mem (slash_not_mem_pathParts h hpart)
  rw [String.toList_intercalate, hseparator, Text.segments_intercalate '/' hne,
    List.flatMap_map, List.flatMap_def, hone, ← List.flatMap_def, ← List.map_eq_flatMap]

/-- Without slashes, types with one path have one package and one simple name. -/
theorem unitPathUnder_inj {sourceRoot : String} {a b : TypeName} (ha : NoSlash a) (hb : NoSlash b)
    (h : unitPathUnder sourceRoot a = unitPathUnder sourceRoot b) :
    a.package = b.package ∧ a.simpleName = b.simpleName := by
  rw [unitPathUnder_eq, unitPathUnder_eq] at h
  have htails : ("/".intercalate a.pathParts).toList = ("/".intercalate b.pathParts).toList := by
    have hlists := congrArg String.toList h
    rw [String.toList_append, String.toList_append (s := sourceRoot ++ "/")] at hlists
    exact List.append_cancel_left hlists
  have hparts := congrArg (Text.segments '/') htails
  rw [segments_pathParts ha, segments_pathParts hb] at hparts
  exact pathParts_inj ((List.map_inj_right fun _ _ => String.toList_inj.mp).mp hparts)

end Session

end AuditAspects
