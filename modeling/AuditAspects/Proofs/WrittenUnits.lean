import AuditAspects.Proofs.EncodedSources

/-!
# Writing units

Everything that can go wrong with the settings, the entity modules or an entity goes wrong
before the first file is written (`writeOutcome`).  Only what keeps a unit itself from being
written is found out on the way (`Location.writeFault?`): that no file can have its path, or
that its text cannot be encoded.  Then the units before it are written already, and nothing
else is, but for an empty file where the path was fine (`writeAll_eq_error`).  Units that are
written change their own files alone (`read?_placeAll_of_not_mem`).
-/

namespace AuditAspects

/-! ## What can be written -/

/-- A fault that keeps a file from being written. -/
def Fault.isOfWriting : Fault → Bool
  | pathHoldsNull | notEncodable _ => true
  | _ => false

theorem Fault.isOfWriting_of_encoding {e : Text.Encoding} {s : String} {f : Fault}
    (h : ofEncoding? e s = some f) : f.isOfWriting = true := by
  obtain ⟨r, -, rfl⟩ := Option.map_eq_some_iff.mp h
  rfl

/-- Nothing keeps a text from being encoded exactly if each character of it can be. -/
theorem Fault.ofEncoding?_eq_none_iff {e : Text.Encoding} {s : String} :
    ofEncoding? e s = none ↔ e.Encodes s := by
  rw [ofEncoding?, Option.map_eq_none_iff, Text.Encoding.refused?_eq_none_iff]

namespace Location

variable {l : Location}

/-- A file can be where the path can be encoded and holds no null character. -/
theorem fault?_eq_none_iff :
    l.fault? = none ↔ Text.Encoding.escaping.Encodes l.text ∧ l.holdsNull = false := by
  rw [fault?, Option.or_eq_none_iff, Fault.ofEncoding?_eq_none_iff]
  cases l.holdsNull <;> simp

theorem isOfWriting_of_fault {f : Fault} (h : l.fault? = some f) : f.isOfWriting = true := by
  rw [fault?, Option.or_eq_some_iff] at h
  rcases h with h | ⟨-, h⟩
  · exact Fault.isOfWriting_of_encoding h
  · split at h
    · cases h
      rfl
    · cases h

/-- Without its last segment a path lacks no more than its end. -/
theorem toList_intercalate_dropLast (separator : String) (parts : List String) :
    (separator.intercalate parts.dropLast).toList <+: (separator.intercalate parts).toList := by
  induction parts with
  | nil => exact List.prefix_rfl
  | cons part parts ih =>
      cases parts with
      | nil => exact List.nil_prefix
      | cons next parts =>
          rw [List.dropLast_cons_cons, String.intercalate_cons_cons]
          cases parts with
          | nil => simp [String.intercalate_singleton]
          | cons last parts =>
              simp only [List.dropLast_cons_cons] at ih ⊢
              rw [String.intercalate_cons_cons]
              simp only [String.toList_append]
              exact (List.prefix_append_right_inj _).mpr ih

/-- The path of a directory is made of characters of the paths inside of it, but for the dot
of the current directory. -/
theorem mem_text_of_parent {c : Char} (h : c ∈ l.parent.text.toList) :
    c ∈ l.text.toList ∨ c = '.' := by
  rw [text] at h
  split at h
  · exact .inr (by simpa using h)
  next hnone =>
    have hsome : ¬(l.root = "" && l.parts = []) = true := by
      intro hempty
      simp only [Bool.and_eq_true, decide_eq_true_eq] at hempty
      simp [parent, hempty] at hnone
    rw [text, if_neg hsome, String.toList_append]
    rw [String.toList_append] at h
    rcases List.mem_append.mp h with hc | hc
    · exact .inl (List.mem_append_left _ hc)
    · exact .inl (List.mem_append_right _ ((toList_intercalate_dropLast _ _).subset hc))

/-- Where a file can be, there can be its directory. -/
theorem fault?_parent (h : l.fault? = none) : l.parent.fault? = none := by
  obtain ⟨htaken, hnull⟩ := fault?_eq_none_iff.mp h
  refine fault?_eq_none_iff.mpr ⟨fun c hc => ?_, ?_⟩
  · rcases mem_text_of_parent hc with hc | rfl
    · exact htaken c hc
    · decide
  · refine Bool.eq_false_iff.mpr fun hparent => ?_
    obtain ⟨part, hpart, hholds⟩ := List.any_eq_true.mp hparent
    rw [holdsNull, List.any_eq_false] at hnull
    exact hnull part (List.dropLast_subset _ hpart) hholds

/-- What keeps a text from being written to a file: the place of the directory, that of the
file, or the text. -/
def writeFault? (target : Location) (text : String) : Option Fault :=
  target.parent.fault?.or (target.fault?.or (Fault.ofEncoding? .strict text))

/-- A text that can be encoded can be written wherever a file can be. -/
theorem writeFault?_of_encodes {text : String} (hplace : l.fault? = none)
    (htext : Text.Encoding.strict.Encodes text) : l.writeFault? text = none := by
  rw [writeFault?, fault?_parent hplace, hplace, Fault.ofEncoding?_eq_none_iff.mpr htext]
  rfl

theorem isOfWriting_of_writeFault {text : String} {f : Fault} (h : l.writeFault? text = some f) :
    f.isOfWriting = true := by
  rw [writeFault?, Option.or_eq_some_iff, Option.or_eq_some_iff] at h
  rcases h with h | ⟨-, h | ⟨-, h⟩⟩
  · exact isOfWriting_of_fault h
  · exact isOfWriting_of_fault h
  · exact Fault.isOfWriting_of_encoding h

end Location

/-! ## Files in their places -/

namespace FileTree

/-- Writes a text and makes the directories on the way to it. -/
def place (t : FileTree) (target : Location) (text : String) : FileTree :=
  (t.makeDirs target.parent).write target ⟨text, .plain⟩

/-- Writes texts by their paths under a directory. -/
def placeAll (base : Location) (units : Rendered) (t : FileTree) : FileTree :=
  units.foldl (fun t u => t.place (base.child u.1) u.2) t

/-- What is left of a file that could not be written: it is empty, if there can be one. -/
def spoil (t : FileTree) (target : Location) : FileTree :=
  if target.fault?.isSome then t else t.place target ""

/-- A text that is placed is in its own file, and no other file has changed. -/
theorem read?_place (t : FileTree) (target l : Location) (text : String) :
    (t.place target text).read? l =
      if l.resolve = target.resolve then some ⟨text, .plain⟩ else t.read? l := by
  rw [place, read?_write, read?_makeDirs]

/-- What is left of a file is left in its own place. -/
theorem read?_spoil_of_ne {target l : Location} (h : l.resolve ≠ target.resolve) (t : FileTree) :
    (t.spoil target).read? l = t.read? l := by
  rw [spoil]
  split
  · rfl
  · rw [read?_place, if_neg h]

variable {base l : Location} {units : Rendered}

theorem read?_placeAll_of_not_mem (h : ∀ u ∈ units, l.resolve ≠ (base.child u.1).resolve)
    (t : FileTree) : (t.placeAll base units).read? l = t.read? l := by
  induction units generalizing t with
  | nil => rfl
  | cons u units ih =>
      obtain ⟨hu, hunits⟩ := List.forall_mem_cons.mp h
      have hrest := ih hunits (t.place (base.child u.1) u.2)
      rw [read?_place, if_neg hu] at hrest
      exact hrest

end FileTree

namespace Session

open Step

/-! ## Steps that write -/

section Writing

variable {base target : Location} {units : Rendered}

/-- A file is written if nothing keeps it from being. -/
theorem writeFile_eq_ok {text : String} (h : target.writeFault? text = none) (s : Session) :
    (writeFile target text).result s = .ok () ∧
      ((writeFile target text).after s).tree = s.tree.place target text := by
  rw [Location.writeFault?, Option.or_eq_none_iff, Option.or_eq_none_iff] at h
  obtain ⟨hparent, htarget, htext⟩ := h
  simp only [writeFile, hparent, htarget, htext]
  refine ⟨rfl, ?_⟩
  exact FileTree.write_write (s.tree.makeDirs target.parent) target ⟨"", .plain⟩ ⟨text, .plain⟩

/-- Otherwise it is refused.  The directories on the way to it may have been made by then. -/
theorem writeFile_eq_error {text : String} {f : Fault} (h : target.writeFault? text = some f)
    (s : Session) :
    (writeFile target text).result s = .error f ∧
      ∀ l, ((writeFile target text).after s).tree.read? l = (s.tree.spoil target).read? l := by
  rw [Location.writeFault?] at h
  rw [FileTree.spoil]
  cases hparent : target.parent.fault? with
  | some g =>
      rw [hparent] at h
      cases h
      have htarget : target.fault?.isSome := by
        by_contra hnone
        rw [Location.fault?_parent (by simpa using hnone)] at hparent
        cases hparent
      simp only [writeFile, hparent, htarget]
      exact ⟨rfl, fun _ => rfl⟩
  | none =>
      rw [hparent, Option.none_or] at h
      cases htarget : target.fault? with
      | some g =>
          rw [htarget] at h
          cases h
          simp only [writeFile, hparent, htarget]
          exact ⟨rfl, fun _ => rfl⟩
      | none =>
          rw [htarget, Option.none_or] at h
          simp only [writeFile, hparent, htarget, h]
          exact ⟨rfl, fun _ => rfl⟩

/-- Units are written to their places if nothing keeps any of them from being. -/
theorem writeAll_of_clean (h : ∀ u ∈ units, (base.child u.1).writeFault? u.2 = none)
    (s : Session) :
    (writeAll base units).result s = .ok (units.map fun u => base.child u.1) ∧
      ((writeAll base units).after s).tree = s.tree.placeAll base units := by
  induction units generalizing s with
  | nil => exact ⟨rfl, rfl⟩
  | cons u units ih =>
      obtain ⟨path, text⟩ := u
      obtain ⟨hu, hunits⟩ := List.forall_mem_cons.mp h
      obtain ⟨hfile, htree⟩ := writeFile_eq_ok hu s
      obtain ⟨hrest, hleft⟩ := ih hunits ((writeFile (base.child path) text).after s)
      constructor
      · rw [writeAll, result_bind_of_ok _ hfile, result_bind_of_ok _ hrest]
        rfl
      · rw [writeAll, after_bind_of_ok _ hfile, after_bind_of_ok _ hrest, after_pure, hleft,
          htree]
        rfl

/-- Writing stops at the first unit that cannot be written, and leaves what was written
before. -/
theorem writeAll_of_stopped {before after : Rendered} {u : String × String} {f : Fault}
    (hbefore : ∀ v ∈ before, (base.child v.1).writeFault? v.2 = none)
    (hu : (base.child u.1).writeFault? u.2 = some f) (s : Session) :
    (writeAll base (before ++ u :: after)).result s = .error f ∧
      ∀ l, ((writeAll base (before ++ u :: after)).after s).tree.read? l =
        ((s.tree.placeAll base before).spoil (base.child u.1)).read? l := by
  induction before generalizing s with
  | nil =>
      obtain ⟨path, text⟩ := u
      obtain ⟨hfile, hleft⟩ := writeFile_eq_error hu s
      rw [List.nil_append, writeAll, result_bind_of_error _ hfile, after_bind_of_error _ hfile]
      exact ⟨rfl, hleft⟩
  | cons v before ih =>
      obtain ⟨path, text⟩ := v
      obtain ⟨hv, hbefore⟩ := List.forall_mem_cons.mp hbefore
      obtain ⟨hfile, htree⟩ := writeFile_eq_ok hv s
      obtain ⟨hstop, hleft⟩ := ih hbefore ((writeFile (base.child path) text).after s)
      rw [List.cons_append, writeAll, result_bind_of_ok _ hfile, result_bind_of_error _ hstop,
        after_bind_of_ok _ hfile, after_bind_of_error _ hstop]
      refine ⟨rfl, fun l => ?_⟩
      rw [hleft, htree]
      rfl

/-- All units can be written, or there is a first one that cannot be. -/
theorem clean_or_stopped (base : Location) (units : Rendered) :
    (∀ u ∈ units, (base.child u.1).writeFault? u.2 = none) ∨
      ∃ before u after f, units = before ++ u :: after ∧
        (∀ v ∈ before, (base.child v.1).writeFault? v.2 = none) ∧
        (base.child u.1).writeFault? u.2 = some f := by
  cases hfind : units.find? fun u => ((base.child u.1).writeFault? u.2).isSome with
  | none => exact .inl (by simpa using hfind)
  | some u =>
      obtain ⟨hu, before, after, rfl, hbefore⟩ := List.find?_eq_some_iff_append.mp hfind
      obtain ⟨f, hf⟩ := Option.isSome_iff_exists.mp hu
      exact .inr ⟨before, u, after, f, rfl, by simpa using hbefore, hf⟩

/-- If all units are written, nothing kept any of them from being, and their files are in their
places. -/
theorem writeAll_eq_ok {places : List Location} {s : Session}
    (h : (writeAll base units).result s = .ok places) :
    places = units.map (fun u => base.child u.1) ∧
      (∀ u ∈ units, (base.child u.1).writeFault? u.2 = none) ∧
      ((writeAll base units).after s).tree = s.tree.placeAll base units := by
  rcases clean_or_stopped base units with hclean | ⟨before, u, after, f, rfl, hbefore, hu⟩
  · obtain ⟨hresult, htree⟩ := writeAll_of_clean hclean s
    rw [hresult, Except.ok.injEq] at h
    exact ⟨h.symm, hclean, htree⟩
  · rw [(writeAll_of_stopped hbefore hu s).1] at h
    cases h

/-- Otherwise there is a first unit that cannot be written. -/
theorem writeAll_eq_error {s : Session} {f : Fault}
    (h : (writeAll base units).result s = .error f) :
    ∃ before u after, units = before ++ u :: after ∧
      (∀ v ∈ before, (base.child v.1).writeFault? v.2 = none) ∧
      (base.child u.1).writeFault? u.2 = some f ∧
      ∀ l, ((writeAll base units).after s).tree.read? l =
        ((s.tree.placeAll base before).spoil (base.child u.1)).read? l := by
  rcases clean_or_stopped base units with hclean | ⟨before, u, after, g, rfl, hbefore, hu⟩
  · rw [(writeAll_of_clean hclean s).1] at h
    cases h
  · obtain ⟨hresult, hleft⟩ := writeAll_of_stopped hbefore hu s
    rw [hresult, Except.error.injEq] at h
    exact ⟨before, u, after, rfl, hbefore, h ▸ hu, hleft⟩

/-- Writing changes the files and the log. -/
theorem after_writeFile (target : Location) (text : String) (s : Session) :
    ∃ tree log, (writeFile target text).after s = { s with tree := tree, log := log } := by
  cases hparent : target.parent.fault? with
  | some f =>
      simp only [writeFile, hparent]
      exact ⟨s.tree, s.log, rfl⟩
  | none =>
      cases htarget : target.fault? with
      | some f =>
          simp only [writeFile, hparent, htarget]
          exact ⟨s.tree.makeDirs target.parent, s.log, rfl⟩
      | none =>
          cases htext : Fault.ofEncoding? .strict text with
          | some f =>
              simp only [writeFile, hparent, htarget, htext]
              exact ⟨s.tree.place target "", s.log, rfl⟩
          | none =>
              simp only [writeFile, hparent, htarget, htext]
              exact ⟨_, s.log ++ [⟨.info, "Wrote " ++ target.text⟩], rfl⟩

theorem after_writeAll (base : Location) (units : Rendered) (s : Session) :
    ∃ tree log, (writeAll base units).after s = { s with tree := tree, log := log } := by
  induction units generalizing s with
  | nil => exact ⟨s.tree, s.log, rfl⟩
  | cons u units ih =>
      obtain ⟨path, text⟩ := u
      obtain ⟨tree, log, hfile⟩ := after_writeFile (base.child path) text s
      rw [writeAll, after_bind, hfile]
      cases (writeFile (base.child path) text).result s with
      | error f => exact ⟨tree, log, rfl⟩
      | ok _ =>
          obtain ⟨tree', log', hrest⟩ := ih { s with tree := tree, log := log }
          simp only [after_bind, hrest]
          cases (writeAll base units).result { s with tree := tree, log := log } with
          | error f => exact ⟨tree', log', rfl⟩
          | ok _ => exact ⟨tree', log', rfl⟩

end Writing

/-! ## The whole run -/

/-- The directory that units are written under. -/
def outputBase (output : Option Location) (s : Session) : Except Fault Location :=
  match output with
  | some base => .ok base
  | none => s.outputDir

/-- A run that writes generates units, finds their directory and writes them there. -/
theorem write_eq (output : Option Location) :
    write output = generate >>= fun rendered =>
      (get >>= fun s => Step.ofExcept (s.outputBase output)) >>= fun base =>
        writeAll base rendered := by
  cases output with
  | some base => rfl
  | none => rfl

/-- The directory of units does not depend on what has been rendered. -/
theorem outputBase_after_generate (output : Option Location) {s : Session}
    {es : List (String × Contract)} (h : opening.result s = .ok es) :
    (generate.after s).outputBase output = (opening.after s).outputBase output := by
  obtain ⟨log, hlog⟩ := after_renderAll (opening.after s) (sortEntities es) []
  rw [generate_eq, after_bind_of_ok _ h, hlog]
  rfl

/-- A run that writes fails as generation does, or for want of a directory, or else ends as
the writing of the units does. -/
theorem result_write (output : Option Location) (s : Session) :
    (write output).result s =
      match generate.result s, (generate.after s).outputBase output with
      | .error f, _ => .error f
      | .ok _, .error f => .error f
      | .ok rendered, .ok base => (writeAll base rendered).result (generate.after s) := by
  rw [write_eq, result_bind]
  cases generate.result s with
  | error f => rfl
  | ok rendered =>
      simp only [result_bind, result_get, after_get, result_ofExcept, after_bind, after_ofExcept]
      cases (generate.after s).outputBase output <;> rfl

theorem after_write (output : Option Location) (s : Session) :
    (write output).after s =
      match generate.result s, (generate.after s).outputBase output with
      | .ok rendered, .ok base => (writeAll base rendered).after (generate.after s)
      | _, _ => generate.after s := by
  rw [write_eq, after_bind]
  cases generate.result s with
  | error f => rfl
  | ok rendered =>
      simp only [result_bind, result_get, after_get, result_ofExcept, after_bind, after_ofExcept]
      cases (generate.after s).outputBase output <;> rfl

@[simp] theorem tree_after_generate (s : Session) : (generate.after s).tree = s.tree := by
  obtain ⟨settings, store, log, loaded, -, hgenerate⟩ := after_generate s
  rw [hgenerate]

/-- Writing keeps the code of no more modules than generation does. -/
theorem kept_after_write (output : Option Location) (s : Session) :
    ((write output).after s).kept = (generate.after s).kept := by
  rw [after_write]
  split
  next rendered base _ _ =>
    obtain ⟨tree, log, hwritten⟩ := after_writeAll base rendered (generate.after s)
    rw [hwritten]
  next => rfl

/-- A run that fails has changed no file, or it failed while units were written. -/
theorem write_eq_error {output : Option Location} {s : Session} {f : Fault}
    (h : (write output).result s = .error f) :
    ((write output).after s).tree = s.tree ∨
      ∃ rendered base, generate.result s = .ok rendered ∧
        (generate.after s).outputBase output = .ok base ∧
        (writeAll base rendered).result (generate.after s) = .error f ∧
        ((write output).after s).tree =
          ((writeAll base rendered).after (generate.after s)).tree := by
  rw [result_write] at h
  rw [after_write]
  cases hgenerate : generate.result s with
  | error g => exact .inl (tree_after_generate s)
  | ok rendered =>
      cases hbase : (generate.after s).outputBase output with
      | error g => exact .inl (tree_after_generate s)
      | ok base =>
          rw [hgenerate, hbase] at h
          exact .inr ⟨rendered, base, rfl, rfl, h, rfl⟩

/-- A run that goes through has written what is rendered. -/
theorem write_eq_ok {output : Option Location} {s : Session} {places : List Location}
    (h : (write output).result s = .ok places) :
    ∃ rendered base, generate.result s = .ok rendered ∧
      (generate.after s).outputBase output = .ok base ∧
      places = rendered.map (fun u => base.child u.1) ∧
      (∀ u ∈ rendered, (base.child u.1).writeFault? u.2 = none) ∧
      ((write output).after s).tree = s.tree.placeAll base rendered := by
  rw [result_write] at h
  rw [after_write]
  cases hgenerate : generate.result s with
  | error g =>
      rw [hgenerate] at h
      cases h
  | ok rendered =>
      cases hbase : (generate.after s).outputBase output with
      | error g =>
          rw [hgenerate, hbase] at h
          cases h
      | ok base =>
          rw [hgenerate, hbase] at h
          obtain ⟨hplaces, hclean, hwritten⟩ := writeAll_eq_ok h
          rw [tree_after_generate] at hwritten
          exact ⟨rendered, base, rfl, rfl, hplaces, hclean, hwritten⟩

/-- A run that writes goes through if all units are rendered, there is a directory for them,
and nothing keeps any of them from being written. -/
theorem result_write_of_clean {output : Option Location} {s : Session} {rendered : Rendered}
    {base : Location} (hgenerate : generate.result s = .ok rendered)
    (hbase : (generate.after s).outputBase output = .ok base)
    (hclean : ∀ u ∈ rendered, (base.child u.1).writeFault? u.2 = none) :
    (write output).result s = .ok (rendered.map fun u => base.child u.1) ∧
      ((write output).after s).tree = s.tree.placeAll base rendered := by
  obtain ⟨hwritten, htree⟩ := writeAll_of_clean hclean (generate.after s)
  rw [result_write, after_write, hgenerate, hbase]
  exact ⟨hwritten, htree.trans (by rw [tree_after_generate])⟩

/-- What a project renders, by its paths, if its contributions can be encoded. -/
theorem exists_rendered {s : Session} {paths : List String}
    (hpaths : (generate.result s).toOption.map (·.map Prod.fst) = some paths)
    (hencodes : ((opening.result s).toOption.getD []).all (fun e =>
      ((contribution e.2).result (opening.after s)).toOption.all
        fun k => decide (k.Encodes .strict)) = true) :
    ∃ rendered, generate.result s = .ok rendered ∧ rendered.map Prod.fst = paths ∧
      ∀ u ∈ rendered, Text.Encoding.strict.Encodes u.2 := by
  cases hgenerate : generate.result s with
  | error f =>
      rw [hgenerate] at hpaths
      cases hpaths
  | ok rendered =>
      rw [hgenerate] at hpaths
      obtain ⟨es, -, hopened, -, -⟩ := generate_eq_ok hgenerate
      rw [hopened] at hencodes
      refine ⟨rendered, rfl, Option.some.inj hpaths, ?_⟩
      refine encodes_of_generate hopened hgenerate fun d hd k hk => ?_
      have hk' := List.all_eq_true.mp hencodes d hd
      rw [hk] at hk'
      exact of_decide_eq_true hk'

end Session

end AuditAspects
