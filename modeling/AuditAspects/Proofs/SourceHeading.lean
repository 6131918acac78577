import AuditAspects.Proofs.ContributionOutcome
import AuditAspects.Proofs.SourceNames
import AuditAspects.Proofs.UnitPaths

/-!
# The heading of a source

A source says where it belongs: its package line, if there is one, names the package, and
its aspect line names the aspect.  `heading?` reads both, up to the aspect line, so that
nothing a member says can be taken for a heading (`heading?_lines`).  What it reads off a
unit is where the unit has its path (`path_heading`).

The lines of a source come back from its text up to the aspect line, unless a name above it
breaks a line (`exists_linesOf_render`).  Apart from the package, only the name of a governor can
do so (`Contribution.linesAbove_unbroken`), and it is made of characters of the identifier
(`mem_governor`).
-/

namespace AuditAspects

/-! ## Reading lines -/

namespace Text

/-- The text of a line between a beginning and an ending. -/
def between? (opening ending line : String) : Option String := do
  let rest ← Identifier.dropOpening opening.toList line.toList
  let inside ← Identifier.dropOpening ending.toList.reverse rest.reverse
  return String.ofList inside.reverse

/-- What stands between two ends is read just from lines that have them. -/
theorem between?_eq_some_iff {opening ending line s : String} :
    between? opening ending line = some s ↔ line = opening ++ s ++ ending := by
  simp only [between?, Option.bind_eq_bind, Option.bind_eq_some_iff,
    Identifier.dropOpening_eq_some_iff, Option.pure_def, Option.some.injEq]
  constructor
  · rintro ⟨rest, hline, inside, hrest, rfl⟩
    apply String.toList_inj.mp
    have hrest : rest = inside.reverse ++ ending.toList := by
      rw [← List.reverse_reverse rest, hrest, List.reverse_append, List.reverse_reverse]
    simp [hline, hrest]
  · rintro rfl
    exact ⟨s.toList ++ ending.toList, by simp, s.toList.reverse, by simp, by simp⟩

/-- A line that begins with another letter than an opening has no text behind it. -/
theorem between?_eq_none_of_head? {opening ending line : String} {c : Char}
    (hopening : opening.toList.head? = some c) (h : line.toList.head? ≠ some c) :
    between? opening ending line = none := by
  rw [Option.eq_none_iff_forall_ne_some]
  intro s hs
  apply h
  rw [between?_eq_some_iff.mp hs, String.toList_append, String.toList_append, List.head?_append,
    List.head?_append, hopening]
  rfl

/-- The lines of a text. -/
def linesOf (text : String) : List String :=
  (segments '\n' text.toList).map String.ofList

/-- Lines come back from their text if they hold no line feed. -/
theorem segments_ofLines_append {lines : List String} (h : ∀ line ∈ lines, '\n' ∉ line.toList)
    (rest : List Char) :
    segments '\n' (ofLines lines ++ rest) = lines.map String.toList ++ segments '\n' rest := by
  induction lines with
  | nil => rfl
  | cons line lines ih =>
      obtain ⟨hline, hlines⟩ := List.forall_mem_cons.mp h
      rw [ofLines_cons, List.append_assoc, List.cons_append, segments_append,
        segments_of_not_mem hline, ih hlines, List.map_cons, List.cons_append, List.cons_append,
        List.nil_append]

end Text

/-! ## The heading -/

/-- The package in a package line. -/
def packageLine? (line : String) : Option String := Text.between? "package " ";" line

/-- The name in an aspect line. -/
def aspectLine? (line : String) : Option String := Text.between? "privileged aspect " " \x7b" line

/-- The package and the aspect that a source names. -/
structure Heading where
  /-- The package, if there is a package line above the aspect line. -/
  package? : Option String
  /-- The name in the aspect line. -/
  aspect : String
deriving DecidableEq

/-- The heading of a source, by its lines. -/
def heading? : List String → Option Heading
  | [] => none
  | line :: lines =>
      match aspectLine? line with
      | some name => some ⟨none, name⟩
      | none => (heading? lines).map fun h => { h with package? := (packageLine? line).or h.package? }

/-- The path that a heading stands for: a directory of sources, the segments of the package
and the name of the file. -/
def Heading.path (h : Heading) (sourceRoot : String) : String :=
  "/".intercalate (sourceRoot ::
    (h.package?.map fun p => (Text.segments '.' p.toList).map String.ofList).getD [] ++
    [h.aspect ++ ".aj"])

/-- A line that begins with another letter is of neither kind. -/
theorem plain_of_head? {line : String} (h : line.toList.head? ≠ some 'p') :
    aspectLine? line = none ∧ packageLine? line = none :=
  ⟨Text.between?_eq_none_of_head? rfl h, Text.between?_eq_none_of_head? rfl h⟩

/-- The first aspect line ends the heading, and the package comes from the lines above it. -/
theorem heading?_append {above : List String} (h : ∀ line ∈ above, aspectLine? line = none)
    {line name : String} (hline : aspectLine? line = some name) (below : List String) :
    heading? (above ++ line :: below) = some ⟨above.findSome? packageLine?, name⟩ := by
  induction above with
  | nil =>
      rw [List.nil_append, heading?, hline]
      rfl
  | cons first above ih =>
      obtain ⟨hfirst, habove⟩ := List.forall_mem_cons.mp h
      rw [List.cons_append, heading?, hfirst, ih habove, List.findSome?_cons]
      cases packageLine? first <;> rfl

/-! ## The heading of a unit -/

namespace CompanionUnit

/-- The lines of the banner are not broken, and begin neither as a package line nor as an
aspect line. -/
theorem banner_plain : ∀ line ∈ banner, '\n' ∉ line.toList ∧ line.toList.head? ≠ some 'p' := by
  decide +kernel

/-- What a unit says of itself. -/
def heading (u : CompanionUnit) : Heading where
  package? := if u.aspect.package = "" then none else some u.aspect.package
  aspect := u.aspect.simpleName

theorem mem_importLines {imports : List TypeName} {line : String} (h : line ∈ importLines imports) :
    line = "" ∨ ∃ t ∈ imports, line = "import " ++ t.name ++ ";" := by
  rw [importLines] at h
  split at h
  · exact absurd h List.not_mem_nil
  · rcases List.mem_append.mp h with h | h
    · obtain ⟨t, ht, rfl⟩ := List.mem_map.mp h
      exact .inr ⟨t, ht, rfl⟩
    · exact .inl (List.mem_singleton.mp h)

/-- An import line passes neither for a package line nor for an aspect line. -/
theorem importLine_plain (t : TypeName) :
    aspectLine? ("import " ++ t.name ++ ";") = none ∧
      packageLine? ("import " ++ t.name ++ ";") = none := by
  refine plain_of_head? ?_
  have hkeyword : "import ".toList.head? = some 'i' := rfl
  rw [String.toList_append, String.toList_append, List.head?_append, List.head?_append, hkeyword,
    Option.some_or, Option.some_or]
  decide

theorem importLines_plain {imports : List TypeName} {line : String}
    (h : line ∈ importLines imports) : aspectLine? line = none ∧ packageLine? line = none := by
  rcases mem_importLines h with rfl | ⟨t, -, rfl⟩
  · decide
  · exact importLine_plain t

theorem aspectLine?_packageLine (package : String) :
    aspectLine? ("package " ++ package ++ ";") = none := by
  rw [aspectLine?, Text.between?, String.toList_append, String.toList_append]
  rfl

theorem mem_packageLines {package line : String} (h : line ∈ packageLines package) :
    line = "" ∨ line = "package " ++ package ++ ";" := by
  rw [packageLines] at h
  split at h
  · exact absurd h List.not_mem_nil
  · rcases List.mem_cons.mp h with rfl | h
    · exact .inr rfl
    · exact .inl (List.mem_singleton.mp h)

theorem aspectLine?_linesAbove {u : CompanionUnit} {line : String} (h : line ∈ u.linesAbove) :
    aspectLine? line = none := by
  rcases List.mem_append.mp h with h | h
  · rcases List.mem_append.mp h with h | h
    · exact (plain_of_head? (banner_plain line h).2).1
    · rcases mem_packageLines h with rfl | rfl
      · decide
      · exact aspectLine?_packageLine _
  · exact (importLines_plain h).1

/-- The package is read from the lines above the aspect. -/
theorem findSome?_linesAbove (u : CompanionUnit) :
    u.linesAbove.findSome? packageLine? = u.heading.package? := by
  have hbanner : banner.findSome? packageLine? = none :=
    List.findSome?_eq_none_iff.mpr fun line h => (plain_of_head? (banner_plain line h).2).2
  have himports : (importLines u.names.imports).findSome? packageLine? = none :=
    List.findSome?_eq_none_iff.mpr fun line h => (importLines_plain h).2
  rw [linesAbove, List.findSome?_append, List.findSome?_append, hbanner, himports,
    Option.or_none, Option.none_or, heading, packageLines]
  split
  · rfl
  · have hline : packageLine? ("package " ++ u.aspect.package ++ ";") = some u.aspect.package :=
      Text.between?_eq_some_iff.mpr rfl
    rw [List.findSome?_cons, hline]

/-- The heading of a unit is read from its lines, whatever comes below. -/
theorem heading?_of_linesAbove (u : CompanionUnit) (below : List String) :
    heading? (u.linesAbove ++ ("privileged aspect " ++ u.aspect.simpleName ++ " \x7b") :: below) =
      some u.heading := by
  have hline : aspectLine? ("privileged aspect " ++ u.aspect.simpleName ++ " \x7b") =
      some u.aspect.simpleName := Text.between?_eq_some_iff.mpr rfl
  rw [heading?_append (fun _ => aspectLine?_linesAbove) hline, findSome?_linesAbove]
  rfl

/-- The lines of a unit: those above the aspect, the aspect, its members and the end. -/
theorem lines_eq (u : CompanionUnit) :
    u.lines = u.linesAbove ++
      ("privileged aspect " ++ u.aspect.simpleName ++ " \x7b") ::
        (u.memberLines ++ ["", "\x7d"]) := by
  rw [lines, linesAbove]
  simp only [List.append_assoc, List.cons_append, List.nil_append]

/-- The lines of a unit say where it belongs. -/
theorem heading?_lines (u : CompanionUnit) : heading? u.lines = some u.heading := by
  rw [lines_eq, heading?_of_linesAbove]

/-- The text of a unit falls into lines up to the aspect line, if what is above it does. -/
theorem exists_linesOf_render {u : CompanionUnit} {above : List String}
    (hsame : Text.ofLines above = Text.ofLines u.linesAbove)
    (habove : ∀ line ∈ above, '\n' ∉ line.toList) (hname : '\n' ∉ u.aspect.simpleName.toList) :
    ∃ below, Text.linesOf u.render =
      above ++ ("privileged aspect " ++ u.aspect.simpleName ++ " \x7b") :: below := by
  have haspect : '\n' ∉ ("privileged aspect " ++ u.aspect.simpleName ++ " \x7b").toList := by
    rw [String.toList_append, String.toList_append, List.mem_append, List.mem_append]
    rintro ((h | h) | h)
    · exact absurd h (by decide)
    · exact hname h
    · exact absurd h (by decide)
  have hlines : ∀ line ∈ above ++ ["privileged aspect " ++ u.aspect.simpleName ++ " \x7b"],
      '\n' ∉ line.toList := by
    intro line hline
    rcases List.mem_append.mp hline with hline | hline
    · exact habove line hline
    · rw [List.mem_singleton.mp hline]
      exact haspect
  have htext : u.render.toList =
      Text.ofLines (above ++ ["privileged aspect " ++ u.aspect.simpleName ++ " \x7b"]) ++
        Text.ofLines (u.memberLines ++ ["", "\x7d"]) := by
    rw [toList_render, lines_eq, List.append_cons, Text.ofLines_append, Text.ofLines_append,
      Text.ofLines_append above, hsame]
  rw [Text.linesOf, htext, Text.segments_ofLines_append hlines, List.map_append, List.map_map]
  simp only [Function.comp_def, String.ofList_toList, List.map_id', List.append_assoc,
    List.singleton_append]
  exact ⟨_, rfl⟩

/-- So does its text, if no name above the members breaks a line. -/
theorem heading?_linesOf {u : CompanionUnit} (habove : ∀ line ∈ u.linesAbove, '\n' ∉ line.toList)
    (hname : '\n' ∉ u.aspect.simpleName.toList) :
    heading? (Text.linesOf u.render) = some u.heading := by
  obtain ⟨below, hlines⟩ := exists_linesOf_render rfl habove hname
  rw [hlines, heading?_of_linesAbove]

/-- If an import breaks into lines of which one passes for a package line, the text of a unit in
no package names that package. -/
theorem heading?_of_brokenImport {u : CompanionUnit} {before after : List TypeName}
    {broken : TypeName} (himports : u.names.imports = before ++ broken :: after)
    (hothers : ∀ t ∈ before ++ after, '\n' ∉ t.name.toList) (hpackage : u.aspect.package = "")
    (hname : '\n' ∉ u.aspect.simpleName.toList) {pieces : List String}
    (hpieces : Text.ofLines pieces = Text.ofLines ["import " ++ broken.name ++ ";"])
    (hplain : ∀ line ∈ pieces, '\n' ∉ line.toList ∧ aspectLine? line = none) {package : String}
    (hfound : pieces.findSome? packageLine? = some package) :
    heading? (Text.linesOf u.render) = some ⟨some package, u.aspect.simpleName⟩ := by
  have hunbroken : ∀ t ∈ before ++ after, '\n' ∉ ("import " ++ t.name ++ ";").toList := by
    intro t ht
    simp [hothers t ht]
  have habove : ∀ line ∈ banner ++ (before.map (fun t => "import " ++ t.name ++ ";") ++ (pieces ++
      (after.map (fun t => "import " ++ t.name ++ ";") ++ [""]))),
      '\n' ∉ line.toList ∧ aspectLine? line = none := by
    intro line hline
    simp only [List.mem_append, List.mem_map, List.mem_singleton] at hline
    rcases hline with h | ⟨t, ht, rfl⟩ | h | ⟨t, ht, rfl⟩ | rfl
    · exact ⟨(banner_plain line h).1, (plain_of_head? (banner_plain line h).2).1⟩
    · exact ⟨hunbroken t (List.mem_append_left _ ht), (importLine_plain t).1⟩
    · exact hplain line h
    · exact ⟨hunbroken t (List.mem_append_right _ ht), (importLine_plain t).1⟩
    · decide
  have hsame : Text.ofLines (banner ++ (before.map (fun t => "import " ++ t.name ++ ";") ++
      (pieces ++ (after.map (fun t => "import " ++ t.name ++ ";") ++ [""])))) =
        Text.ofLines u.linesAbove := by
    rw [linesAbove, hpackage, himports, packageLines, if_pos rfl, importLines, if_neg (by simp)]
    simp only [Text.ofLines_append, hpieces, List.map_append, List.map_cons, List.append_nil,
      Text.ofLines_cons, Text.ofLines_nil, List.append_assoc, List.cons_append, List.nil_append]
  obtain ⟨below, hbelow⟩ := exists_linesOf_render hsame (fun line h => (habove line h).1) hname
  have haspect : aspectLine? ("privileged aspect " ++ u.aspect.simpleName ++ " \x7b") =
      some u.aspect.simpleName := Text.between?_eq_some_iff.mpr rfl
  have hbanner : banner.findSome? packageLine? = none :=
    List.findSome?_eq_none_iff.mpr fun line h => (plain_of_head? (banner_plain line h).2).2
  have hbefore :
      (before.map fun t => "import " ++ t.name ++ ";").findSome? packageLine? = none := by
    refine List.findSome?_eq_none_iff.mpr fun line h => ?_
    obtain ⟨t, -, rfl⟩ := List.mem_map.mp h
    exact (importLine_plain t).2
  rw [hbelow, heading?_append (fun line h => (habove line h).2) haspect, List.findSome?_append,
    List.findSome?_append, List.findSome?_append, hbanner, hbefore, hfound]
  rfl

/-- What a unit says of itself is where it has its path. -/
theorem path_heading (u : CompanionUnit) (sourceRoot : String) :
    u.heading.path sourceRoot = Session.unitPathUnder sourceRoot u.aspect := by
  rw [Heading.path, Session.unitPathUnder, heading, Session.packageParts]
  split <;> rfl

end CompanionUnit

/-! ## Names above the members -/

/-- No line above the members is broken, unless by the name of the package or of an import. -/
theorem CompanionUnit.linesAbove_unbroken {u : CompanionUnit}
    (hpackage : '\n' ∉ u.aspect.package.toList)
    (himports : ∀ t ∈ u.names.imports, '\n' ∉ t.name.toList) :
    ∀ line ∈ u.linesAbove, '\n' ∉ line.toList := by
  have hclause : ∀ keyword name : String, '\n' ∉ keyword.toList → '\n' ∉ name.toList →
      '\n' ∉ (keyword ++ name ++ ";").toList := by
    intro keyword name hkeyword hname
    simp [hkeyword, hname]
  intro line hline
  rcases List.mem_append.mp hline with hline | hline
  · rcases List.mem_append.mp hline with hline | hline
    · exact (banner_plain line hline).1
    · rcases mem_packageLines hline with rfl | rfl
      · decide
      · exact hclause "package " _ (by decide) hpackage
  · rcases mem_importLines hline with rfl | ⟨t, ht, rfl⟩
    · decide
    · exact hclause "import " _ (by decide) (himports t ht)

/-- A governor is named by what comes behind a question mark of its path, by a question mark and
by its type. -/
theorem Identifier.mem_governor {type governor : TypeName} {path : LogicalPath} {c : Char}
    (h : Identifier.type (.text (create type path)) = .ok governor)
    (hc : c ∈ governor.name.toList) :
    (∃ before after, path.name.toList = before ++ '?' :: after ∧ c ∈ after) ∨ c = '?' ∨
      c ∈ type.name.toList := by
  obtain ⟨before, hparts⟩ :
      ∃ before, parts? (.text (create type path)) = some (before, governor) := by
    rw [Identifier.type, parts] at h
    cases hp : parts? (.text (create type path)) with
    | none =>
        rw [hp] at h
        cases h
    | some p =>
        rw [hp] at h
        cases h
        exact ⟨p.1, rfl⟩
  obtain ⟨hspelled, -⟩ := parts?_eq_some_iff.mp hparts
  have hdrop := dropOpening_spell path.name type.name
  rw [← create_eq_spell, Value.text.inj hspelled, dropOpening_spell, Option.some.injEq] at hdrop
  rcases List.append_eq_append_iff.mp hdrop with ⟨rest, hpath, hrest⟩ | ⟨rest, -, hrest⟩
  · cases rest with
    | nil =>
        rw [← (List.cons.inj hrest).2]
        exact .inr (.inr hc)
    | cons d after =>
        obtain ⟨rfl, hname⟩ := List.cons.inj hrest
        have hname : governor.name.toList = after ++ '?' :: type.name.toList := hname
        rw [hname, List.mem_append, List.mem_cons] at hc
        rcases hc with hc | hc | hc
        · exact .inl ⟨_, after, hpath, hc⟩
        · exact .inr (.inl hc)
        · exact .inr (.inr hc)
  · cases rest with
    | nil =>
        rw [(List.cons.inj hrest).2]
        exact .inr (.inr hc)
    | cons d after =>
        have hname : type.name.toList = after ++ '?' :: governor.name.toList :=
          (List.cons.inj hrest).2
        rw [hname]
        exact .inr (.inr (List.mem_append_right _ (List.mem_cons_of_mem _ hc)))

namespace Contribution

section Source

variable {identifier : String} {aspect governor : TypeName} {columns : FieldSpec → Option String}
  {declared : String → Bool}

/-- A unit of auditing imports types of auditing and its governor only. -/
theorem mem_imports_source {t : TypeName}
    (h : t ∈ (ofBundle identifier aspect governor
      (auditBundle columns declared)).unit.names.imports) : t = governor ∨ t ∈ auditTypes := by
  rcases NameTable.mem_of_mem_imports_forUnit _ _ _ h with h | himported
  · exact .inl h
  · rcases NameTable.mem_of_mem_imports_forUnit _ _ _ himported with h | hclaimed
    · exact .inl h
    · exact .inr (mem_auditTypes (Bundle.mem_claims.mp hclaimed))

/-- A governor of another package and another simple name than the aspect is imported. -/
theorem governor_mem_imports (hlang : governor.isLang = false)
    (hpackage : governor.package ≠ aspect.package)
    (hsimple : aspect.simpleName ≠ governor.simpleName) :
    governor ∈ (ofBundle identifier aspect governor
      (auditBundle columns declared)).unit.names.imports := by
  refine (NameTable.mem_imports_iff (NameTable.forUnit_distinct _ _ _)).mpr ⟨?_, ?_⟩
  · rw [ofBundle, NameTable.owner?_forUnit, if_neg hsimple, if_pos rfl]
  · rw [ofBundle, NameTable.isVisible_forUnit, hlang, Bool.false_or, decide_eq_false hpackage]

/-- No line above the members is broken, unless by the name of the package or of the
governor. -/
theorem linesAbove_unbroken (hpackage : '\n' ∉ aspect.package.toList)
    (hgovernor : '\n' ∉ governor.name.toList) :
    ∀ line ∈ (ofBundle identifier aspect governor
      (auditBundle columns declared)).unit.linesAbove, '\n' ∉ line.toList := by
  refine CompanionUnit.linesAbove_unbroken hpackage fun t ht => ?_
  rcases mem_imports_source ht with rfl | ht
  · exact hgovernor
  · intro hmem
    rcases (name_of_mem_auditTypes ht).2 _ hmem with hletter | hdot
    · exact absurd hletter (by decide)
    · exact absurd hdot (by decide)

end Source

end Contribution

end AuditAspects
