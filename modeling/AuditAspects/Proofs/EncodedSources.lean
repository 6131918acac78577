import AuditAspects.Proofs.ClaimHistory
import AuditAspects.Proofs.GeneratedUnits
import AuditAspects.Proofs.SourceHeading

/-!
# Encoding sources

A source is made of the pieces of its layout and of the lines above the members.  So it can be
encoded if the texts and the types of its members can, with the aspect and the imports
(`CompanionUnit.encodes_render`).
-/

namespace AuditAspects

open Text (Encoding)

variable {e : Encoding}

/-- A type is written by characters of its name. -/
theorem NameTable.encodes_written {t : TypeName} (h : e.Encodes t.name) (n : NameTable) :
    e.Encodes (n.written t) := by
  rcases n.written_eq_simpleName_or_name t with hwritten | hwritten
  · rw [hwritten]
    exact fun c hc => h c (t.mem_name_of_mem_simpleName hc)
  · rw [hwritten]
    exact h

/-! ## Layouts -/

/-- A piece that can be encoded: its text, or the name of its type. -/
def Piece.Encodes (e : Encoding) : Piece → Prop
  | text s => e.Encodes s
  | place t => e.Encodes t.name

instance (e : Encoding) (p : Piece) : Decidable (p.Encodes e) :=
  match p with
  | .text s => inferInstanceAs (Decidable (e.Encodes s))
  | .place t => inferInstanceAs (Decidable (e.Encodes t.name))

/-- A layout whose pieces can all be encoded. -/
def Layout.Encodes (e : Encoding) (layout : Layout) : Prop :=
  ∀ pieces ∈ layout, ∀ p ∈ pieces, p.Encodes e

instance (e : Encoding) (layout : Layout) : Decidable (layout.Encodes e) :=
  inferInstanceAs (Decidable (∀ pieces ∈ layout, ∀ p ∈ pieces, p.Encodes e))

/-- A piece that can be encoded can be with any table of names. -/
theorem Piece.encodes_fill {p : Piece} (h : p.Encodes e) (n : NameTable) :
    e.Encodes (p.fill n.written) := by
  cases p with
  | text s => exact h
  | place t => exact n.encodes_written h

theorem encodes_fillPieces {pieces : List Piece} (h : ∀ p ∈ pieces, p.Encodes e) (n : NameTable) :
    e.Encodes (fillPieces n.written pieces) := by
  induction pieces with
  | nil => exact fun c hc => absurd hc List.not_mem_nil
  | cons p pieces ih =>
      obtain ⟨hp, hrest⟩ := List.forall_mem_cons.mp h
      have hjoin : fillPieces n.written (p :: pieces) =
          p.fill n.written ++ fillPieces n.written pieces := by
        simp [fillPieces]
      rw [hjoin, Encoding.encodes_append]
      exact ⟨p.encodes_fill hp n, ih hrest⟩

theorem Layout.encodes_fill {layout : Layout} (h : layout.Encodes e) (n : NameTable) :
    ∀ line ∈ layout.fill n.written, e.Encodes line := by
  intro line hline
  obtain ⟨pieces, hpieces, rfl⟩ := List.mem_map.mp hline
  exact encodes_fillPieces (h pieces hpieces) n

/-! ## Units -/

namespace CompanionUnit

variable {u : CompanionUnit}

/-- The lines above the aspect can be encoded if the aspect and the imports can. -/
theorem encodes_linesAbove (haspect : e.Encodes u.aspect.name)
    (himports : ∀ t ∈ u.names.imports, e.Encodes t.name) :
    ∀ line ∈ u.linesAbove, e.Encodes line := by
  have hbanner : ∀ line ∈ banner, Encoding.strict.Encodes line := by decide +kernel
  have hwords : e.Encodes "package " ∧ e.Encodes "import " ∧ e.Encodes ";" ∧ e.Encodes "" := by
    cases e <;> decide
  obtain ⟨hpackage, himport, hend, hempty⟩ := hwords
  intro line hline
  rcases List.mem_append.mp hline with hline | hline
  · rcases List.mem_append.mp hline with hline | hline
    · exact Encoding.encodes_of_strict (hbanner line hline) e
    · rcases mem_packageLines hline with rfl | rfl
      · exact hempty
      · rw [Encoding.encodes_append, Encoding.encodes_append]
        exact ⟨⟨hpackage, fun c hc => haspect c (u.aspect.mem_name_of_mem_package hc)⟩, hend⟩
  · rcases mem_importLines hline with rfl | ⟨t, ht, rfl⟩
    · exact hempty
    · rw [Encoding.encodes_append, Encoding.encodes_append]
      exact ⟨⟨himport, himports t ht⟩, hend⟩

/-- A source can be encoded if its members, its aspect and its imports can. -/
theorem encodes_render (haspect : e.Encodes u.aspect.name)
    (himports : ∀ t ∈ u.names.imports, e.Encodes t.name)
    (hmembers : u.memberLayout.Encodes e) : e.Encodes u.render := by
  have hwords : e.Encodes "privileged aspect " ∧ e.Encodes " \x7b" ∧ e.Encodes "" ∧
      e.Encodes "\x7d" ∧ e.takes '\n' = true := by
    cases e <;> decide
  obtain ⟨hkeyword, hopen, hempty, hclose, hbreak⟩ := hwords
  have hlines : ∀ line ∈ u.lines, e.Encodes line := by
    intro line hline
    rw [lines_eq, memberLines_eq_fill] at hline
    simp only [List.mem_append, List.mem_cons, List.not_mem_nil, or_false] at hline
    rcases hline with hline | rfl | hline | rfl | rfl
    · exact encodes_linesAbove haspect himports line hline
    · rw [Encoding.encodes_append, Encoding.encodes_append]
      exact ⟨⟨hkeyword, fun c hc => haspect c (u.aspect.mem_name_of_mem_simpleName hc)⟩, hopen⟩
    · exact Layout.encodes_fill hmembers u.names line hline
    · exact hempty
    · exact hclose
  intro c hc
  rw [toList_render] at hc
  obtain ⟨line, hline, hc⟩ := List.mem_flatMap.mp hc
  rcases List.mem_append.mp hc with hc | hc
  · exact hlines line hline c hc
  · rw [List.mem_singleton.mp hc]
    exact hbreak

end CompanionUnit

/-! ## Contributions -/

/-- A contribution whose types can be encoded, with the texts of its members. -/
def Contribution.Encodes (e : Encoding) (k : Contribution) : Prop :=
  e.Encodes k.aspect.name ∧ e.Encodes k.governor.name ∧ k.unit.memberLayout.Encodes e

instance (e : Encoding) (k : Contribution) : Decidable (k.Encodes e) :=
  inferInstanceAs (Decidable (_ ∧ _ ∧ _))

namespace Session

/-- The sources of a project can be encoded if its contributions can. -/
theorem encodes_of_generate {s : Session} {es : List (String × Contract)} {rendered : Rendered}
    (hopened : opening.result s = .ok es) (hgenerate : generate.result s = .ok rendered)
    (hes : ∀ d ∈ es, ∀ k, (contribution d.2).result (opening.after s) = .ok k → k.Encodes e) :
    ∀ u ∈ rendered, e.Encodes u.2 := by
  have haudit : ∀ t ∈ auditTypes, Encoding.strict.Encodes t.name := by decide +kernel
  intro u hu
  obtain ⟨es', units, hopened', hunits, rfl⟩ := generate_eq_ok hgenerate
  rw [hopened, Except.ok.injEq] at hopened'
  have hmem := (mem_putUnits hu).resolve_left List.not_mem_nil
  obtain ⟨d, hd, hunit⟩ := (mem_unitsOf_iff hunits).mp hmem
  obtain ⟨k, hk, -, htext⟩ := unitOf_eq_ok hunit
  obtain ⟨haspect, hgovernor, hmembers⟩ := hes d (hopened' ▸ mem_sortBy.mp hd) k hk
  obtain ⟨path, type, governor, columns, declared, -, -, -, -, rfl⟩ := contribution_eq_ok hk
  rw [htext]
  refine CompanionUnit.encodes_render haspect (fun t ht => ?_) hmembers
  rcases Contribution.mem_imports_source ht with rfl | ht
  · exact hgovernor
  · exact Encoding.encodes_of_strict (haudit t ht) e

end Session

end AuditAspects
