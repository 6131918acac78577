import AuditAspects.Proofs.NameOwnership
import AuditAspects.Proofs.SourceText

/-!
# Names in the source

A source is a layout with a name in each place for a type.  The layout comes from the unit,
and the names come from the table that the unit is written with
(`CompanionUnit.render_eq_fill`).  The places are for the aspect, for the governor and for the
types that members mention (`CompanionUnit.hasPlace_layout`), so two tables that give these the
same names give the same source (`Layout.fill_congr`).
-/

namespace AuditAspects

/-! ## Layouts -/

/-- A piece of a source: a text as it stands, or a place for the name of a type. -/
inductive Piece where
  /-- A text. -/
  | text (s : String)
  /-- A place for the name of a type. -/
  | place (t : TypeName)

/-- The text of a piece, with a name in the place for a type. -/
def Piece.fill (name : TypeName → String) : Piece → String
  | text s => s
  | place t => name t

/-- The text of several pieces. -/
def fillPieces (name : TypeName → String) (pieces : List Piece) : String :=
  String.join (pieces.map (·.fill name))

/-- Lines of a source, by their pieces. -/
abbrev Layout := List (List Piece)

namespace Layout

/-- The lines of a layout, with a name in each place. -/
def fill (name : TypeName → String) (layout : Layout) : List String :=
  layout.map (fillPieces name)

/-- A layout has a place for a type. -/
def HasPlace (layout : Layout) (t : TypeName) : Prop :=
  ∃ pieces ∈ layout, .place t ∈ pieces

end Layout

section Fill

variable {name : TypeName → String}

@[simp] theorem fillPieces_nil : fillPieces name [] = "" := rfl

@[simp] theorem fillPieces_text (s : String) (ps : List Piece) :
    fillPieces name (.text s :: ps) = s ++ fillPieces name ps := by
  simp [fillPieces, Piece.fill]

@[simp] theorem fillPieces_place (t : TypeName) (ps : List Piece) :
    fillPieces name (.place t :: ps) = name t ++ fillPieces name ps := by
  simp [fillPieces, Piece.fill]

@[simp] theorem fillPieces_append (ps qs : List Piece) :
    fillPieces name (ps ++ qs) = fillPieces name ps ++ fillPieces name qs := by
  simp [fillPieces]

@[simp] theorem Layout.fill_nil : Layout.fill name [] = [] := rfl

@[simp] theorem Layout.fill_cons (ps : List Piece) (layout : Layout) :
    Layout.fill name (ps :: layout) = fillPieces name ps :: layout.fill name := rfl

@[simp] theorem Layout.fill_append (l m : Layout) :
    Layout.fill name (l ++ m) = l.fill name ++ m.fill name :=
  List.map_append

@[simp] theorem Layout.fill_map {α : Type} (pieces : α → List Piece) (xs : List α) :
    Layout.fill name (xs.map pieces) = xs.map fun x => fillPieces name (pieces x) :=
  List.map_map

@[simp] theorem Layout.fill_flatMap {α : Type} (layout : α → Layout) (xs : List α) :
    Layout.fill name (xs.flatMap layout) = xs.flatMap fun x => (layout x).fill name :=
  List.map_flatMap

@[simp] theorem Layout.not_hasPlace_nil (t : TypeName) : ¬Layout.HasPlace [] t := by
  simp [HasPlace]

@[simp] theorem Layout.hasPlace_cons {ps : List Piece} {layout : Layout} {t : TypeName} :
    Layout.HasPlace (ps :: layout) t ↔ .place t ∈ ps ∨ layout.HasPlace t := by
  simp [HasPlace]

@[simp] theorem Layout.hasPlace_append {l m : Layout} {t : TypeName} :
    Layout.HasPlace (l ++ m) t ↔ l.HasPlace t ∨ m.HasPlace t := by
  simp [HasPlace, or_and_right, exists_or]

@[simp] theorem Layout.hasPlace_map {α : Type} {pieces : α → List Piece} {xs : List α}
    {t : TypeName} : Layout.HasPlace (xs.map pieces) t ↔ ∃ x ∈ xs, .place t ∈ pieces x := by
  simp [HasPlace]

@[simp] theorem Layout.hasPlace_flatMap {α : Type} {layout : α → Layout} {xs : List α}
    {t : TypeName} : Layout.HasPlace (xs.flatMap layout) t ↔ ∃ x ∈ xs, (layout x).HasPlace t := by
  simp only [HasPlace, List.mem_flatMap]
  grind

/-- A layout is filled alike with other names, if the types that it has places for keep
theirs. -/
theorem Layout.fill_congr {name' : TypeName → String} {layout : Layout}
    (h : ∀ t, layout.HasPlace t → name t = name' t) : layout.fill name = layout.fill name' := by
  refine List.map_congr_left fun pieces hpieces => ?_
  refine congrArg String.join (List.map_congr_left fun p hp => ?_)
  cases p with
  | text s => rfl
  | place t => exact h t ⟨pieces, hpieces, hp⟩

end Fill

/-! ## Annotations -/

/-- The pieces of an attribute value. -/
def AttributeValue.pieces : AttributeValue → List Piece
  | .text s => [.text (textLiteral s)]
  | .constant type name => [.place type, .text ("." ++ name)]
  | .classOf type => [.place type, .text ".class"]

/-- The pieces of an attribute with its name. -/
def Attribute.pieces (x : Attribute) : List Piece :=
  .text (x.name ++ " = ") :: x.value.pieces

/-- The pieces of the attributes of an annotation. -/
def attributePieces : List Attribute → List Piece
  | [] => []
  | [x] => .text "(" :: (if x.name = soleAttribute then x.value.pieces else x.pieces) ++ [.text ")"]
  | x :: xs =>
      .text "(" :: x.pieces ++ xs.flatMap (fun y => .text ", " :: y.pieces) ++ [.text ")"]

/-- The pieces of an annotation. -/
def Annotation.pieces (a : Annotation) : List Piece :=
  .text "@" :: .place a.tag.type :: attributePieces a.attributes

section Annotations

variable (n : NameTable) {t : TypeName}

theorem AttributeValue.render_eq_fill (v : AttributeValue) :
    v.render n = fillPieces n.written v.pieces := by
  cases v <;> simp [AttributeValue.render, AttributeValue.pieces, String.append_assoc]

theorem Attribute.render_eq_fill (x : Attribute) :
    x.render n = fillPieces n.written x.pieces := by
  simp [Attribute.render, Attribute.pieces, AttributeValue.render_eq_fill]

/-- Attributes with a separator between them are made of their pieces, with the separator as a
piece. -/
theorem intercalate_render_eq_fill (separator : String) (x : Attribute) (xs : List Attribute) :
    separator.intercalate ((x :: xs).map (·.render n)) =
      fillPieces n.written (x.pieces ++ xs.flatMap fun y => .text separator :: y.pieces) := by
  induction xs generalizing x with
  | nil => simp [Attribute.render_eq_fill]
  | cons y ys ih =>
      rw [List.map_cons, List.map_cons, String.intercalate_cons_cons, ← List.map_cons, ih,
        Attribute.render_eq_fill]
      simp [String.append_assoc]

/-- The text of all attributes is made of their pieces. -/
theorem renderAttributes_eq_fill (xs : List Attribute) :
    renderAttributes n xs = fillPieces n.written (attributePieces xs) := by
  match xs with
  | [] => rfl
  | [x] =>
      rw [renderAttributes, attributePieces, AttributeValue.render_eq_fill,
        Attribute.render_eq_fill]
      split <;> simp [String.append_assoc]
  | x :: y :: ys =>
      have hmany : renderAttributes n (x :: y :: ys) =
          "(" ++ ", ".intercalate ((x :: y :: ys).map (·.render n)) ++ ")" := rfl
      rw [hmany, intercalate_render_eq_fill]
      simp [attributePieces, String.append_assoc]

/-- The text of an annotation is made of its pieces. -/
theorem Annotation.render_eq_fill (a : Annotation) :
    a.render n = fillPieces n.written a.pieces := by
  simp [renderAttributes_eq_fill, Annotation.render, Annotation.pieces, String.append_assoc]

/-- A value has places for the types that it refers to. -/
theorem AttributeValue.place_mem_pieces {v : AttributeValue} :
    .place t ∈ v.pieces ↔ t ∈ v.referencedTypes := by
  cases v <;> simp [AttributeValue.pieces, AttributeValue.referencedTypes]

/-- Attributes have places for the types that their values refer to. -/
theorem place_mem_attributePieces {xs : List Attribute} :
    .place t ∈ attributePieces xs ↔ ∃ x ∈ xs, t ∈ x.value.referencedTypes := by
  match xs with
  | [] => simp [attributePieces]
  | [x] =>
      rw [attributePieces]
      split <;> simp [Attribute.pieces, AttributeValue.place_mem_pieces]
  | x :: y :: ys => simp [attributePieces, Attribute.pieces, AttributeValue.place_mem_pieces]

/-- An annotation has places for the types that it refers to. -/
theorem Annotation.place_mem_pieces {a : Annotation} :
    .place t ∈ a.pieces ↔ t ∈ a.referencedTypes := by
  simp [place_mem_attributePieces, Annotation.pieces, Annotation.referencedTypes]

end Annotations

/-! ## Members -/

/-- The layout of an annotation on the governor. -/
def Annotation.layout (governor : TypeName) (a : Annotation) : Layout :=
  [.text (indent ++ "declare @type: ") :: .place governor :: .text ": " :: a.pieces ++ [.text ";"]]

/-- The layout of a field. -/
def Field.layout (governor : TypeName) (f : Field) : Layout :=
  f.annotations.map (fun a => .text indent :: a.pieces) ++
    [[.text (indent ++ f.modifiers.keywords ++ " "), .place f.type, .text " ", .place governor,
      .text ("." ++ f.name ++ ";")]]

/-- The layout of a method. -/
def Method.layout (governor : TypeName) (m : Method) : Layout :=
  [.text (indent ++ m.modifiers.keywords ++ " "), .place m.type, .text " ", .place governor,
      .text ("." ++ m.name ++ "() \x7b")] ::
    m.body.map (fun line => [.text (indent ++ indent ++ line)]) ++ [[.text (indent ++ "\x7d")]]

section Members

variable (n : NameTable) (governor : TypeName) {t : TypeName}

theorem governorAnnotationLines_eq_fill (a : Annotation) :
    governorAnnotationLines n (n.written governor) a = (a.layout governor).fill n.written := by
  simp [governorAnnotationLines, Annotation.layout, Annotation.render_eq_fill, String.append_assoc]

/-- The lines of a field are its layout, with the names of a table. -/
theorem Field.lines_eq_fill (f : Field) :
    f.lines n (n.written governor) = (f.layout governor).fill n.written := by
  simp [Field.lines, Field.layout, Annotation.render_eq_fill, String.append_assoc]

/-- The lines of a method are its layout, with the names of a table. -/
theorem Method.lines_eq_fill (m : Method) :
    m.lines n (n.written governor) = (m.layout governor).fill n.written := by
  simp [Method.lines, Method.layout, String.append_assoc]

/-- An annotation on the governor has places for the governor and for the types that it refers
to. -/
theorem Annotation.hasPlace_layout {a : Annotation} :
    (a.layout governor).HasPlace t ↔ t = governor ∨ t ∈ a.referencedTypes := by
  simp [Layout.hasPlace_cons, Annotation.layout, Annotation.place_mem_pieces]

/-- A field has places for the governor and for the types that it refers to. -/
theorem Field.hasPlace_layout {f : Field} :
    (f.layout governor).HasPlace t ↔ t = governor ∨ t ∈ f.referencedTypes := by
  have hplaces : (f.layout governor).HasPlace t ↔
      (∃ a ∈ f.annotations, t ∈ a.referencedTypes) ∨ t = f.type ∨ t = governor := by
    simp [Field.layout, Annotation.place_mem_pieces]
  rw [hplaces, Field.referencedTypes, List.mem_cons, List.mem_flatMap]
  grind

/-- A method has places for the governor and for the types that it refers to. -/
theorem Method.hasPlace_layout {m : Method} :
    (m.layout governor).HasPlace t ↔ t = governor ∨ t ∈ m.referencedTypes := by
  simp [Method.layout, Method.referencedTypes, or_comm]

end Members

/-- The layout of members, each with an empty line before it. -/
def membersLayout (governor : TypeName) (annotations : List Annotation) (fields : List Field)
    (methods : List Method) : Layout :=
  annotations.flatMap (fun a => [] :: a.layout governor) ++
    fields.flatMap (fun f => [] :: f.layout governor) ++
    methods.flatMap (fun m => [] :: m.layout governor)

theorem hasPlace_membersLayout {governor t : TypeName} {annotations : List Annotation}
    {fields : List Field} {methods : List Method} :
    (membersLayout governor annotations fields methods).HasPlace t ↔
      (∃ a ∈ annotations, t = governor ∨ t ∈ a.referencedTypes) ∨
        (∃ f ∈ fields, t = governor ∨ t ∈ f.referencedTypes) ∨
        ∃ m ∈ methods, t = governor ∨ t ∈ m.referencedTypes := by
  simp [membersLayout, Annotation.hasPlace_layout, Field.hasPlace_layout,
    Method.hasPlace_layout]

/-! ## Bundles -/

/-- The lines of the members of a bundle, each with an empty line before it. -/
def Bundle.lines (names : NameTable) (governor : String) (b : Bundle) : List String :=
  "" :: governorAnnotationLines names governor b.listener ++
    b.fields.flatMap (fun f => "" :: f.lines names governor) ++
    b.methods.flatMap (fun f => "" :: f.lines names governor)

/-- The lines of a bundle are the layout of its members, with the names of a table. -/
theorem Bundle.lines_eq_fill (n : NameTable) (governor : TypeName) (b : Bundle) :
    b.lines n (n.written governor) =
      (membersLayout governor [b.listener] b.fields b.methods).fill n.written := by
  simp [lines, membersLayout, governorAnnotationLines_eq_fill, Field.lines_eq_fill,
    Method.lines_eq_fill]

/-- Two tables give every type of a list the same name. -/
def NameTable.Agree (n m : NameTable) (types : List TypeName) : Prop :=
  ∀ t ∈ types, n.written t = m.written t

/-- The lines of a bundle depend on the table through the names of the governor and of the
types that the bundle mentions. -/
theorem Bundle.lines_congr {n m : NameTable} {governor : TypeName} {b : Bundle}
    (h : n.Agree m (governor :: b.referencedTypes)) :
    b.lines n (n.written governor) = b.lines m (m.written governor) := by
  rw [lines_eq_fill, lines_eq_fill]
  refine Layout.fill_congr fun t ht => h t ?_
  rw [hasPlace_membersLayout] at ht
  rw [List.mem_cons, mem_referencedTypes]
  grind

/-! ## Units -/

namespace CompanionUnit

/-- The lines above the aspect line of a unit. -/
def linesAbove (u : CompanionUnit) : List String :=
  banner ++ packageLines u.aspect.package ++ importLines u.names.imports

/-- The layout of the members of a unit. -/
def memberLayout (u : CompanionUnit) : Layout :=
  membersLayout u.governor u.annotations u.fields u.methods

/-- The layout of a unit. -/
def layout (u : CompanionUnit) : Layout :=
  u.linesAbove.map (fun line => [.text line]) ++
    [.text "privileged aspect ", .place u.aspect, .text " \x7b"] :: u.memberLayout ++
    [[], [.text "\x7d"]]

/-- A unit writes its own type by its simple name. -/
theorem written_aspect (u : CompanionUnit) : u.names.written u.aspect = u.aspect.simpleName := by
  have hnames : u.names = NameTable.forUnit u.aspect u.governor u.imports := rfl
  refine NameTable.written_of_owner ?_
  rw [hnames, NameTable.owner?_forUnit, if_pos rfl]

/-- The member lines of a unit are the layout of its members, with the names of its table. -/
theorem memberLines_eq_fill (u : CompanionUnit) :
    u.memberLines = u.memberLayout.fill u.names.written := by
  simp [memberLines, memberLayout, membersLayout, governorAnnotationLines_eq_fill,
    Field.lines_eq_fill, Method.lines_eq_fill]

/-- The members of a unit that holds a bundle are written as those of the bundle. -/
theorem memberLines_of_holds {u : CompanionUnit} {b : Bundle} (h : u.holds b) :
    u.memberLines = b.lines u.names (u.names.written u.governor) := by
  obtain ⟨⟨hfields, hmethods⟩, hannotations⟩ : (u.fields = b.fields ∧ u.methods = b.methods) ∧
      u.annotations = [b.listener] := by
    simpa [holds] using h
  rw [memberLines_eq_fill, memberLayout, hfields, hmethods, hannotations, Bundle.lines_eq_fill]

/-- The lines of a unit are its layout, with the names of its table. -/
theorem lines_eq_fill (u : CompanionUnit) : u.lines = u.layout.fill u.names.written := by
  simp [lines, linesAbove, layout, memberLines_eq_fill, written_aspect, String.append_assoc]

/-- The source of a unit has places for the aspect, for the types that members mention and,
with each member, for the governor. -/
theorem hasPlace_layout {u : CompanionUnit} {t : TypeName} :
    u.layout.HasPlace t ↔ t = u.aspect ∨ t ∈ u.referencedTypes ∨
      t = u.governor ∧ (u.annotations ≠ [] ∨ u.fields ≠ [] ∨ u.methods ≠ []) := by
  have hexists : ∀ {α : Type} (xs : List α), xs ≠ [] ↔ ∃ x, x ∈ xs :=
    fun xs => ⟨List.exists_mem_of_ne_nil xs, fun ⟨_, h⟩ => List.ne_nil_of_mem h⟩
  have hplaces : u.layout.HasPlace t ↔ t = u.aspect ∨ u.memberLayout.HasPlace t := by
    simp [layout]
  rw [hplaces, memberLayout, hasPlace_membersLayout, referencedTypes]
  simp only [List.mem_append, List.mem_flatMap, hexists]
  grind

/-- The source of a unit is its layout, with the names of its table. -/
theorem render_eq_fill (u : CompanionUnit) :
    u.render.toList = Text.ofLines (u.layout.fill u.names.written) := by
  rw [toList_render, lines_eq_fill]

end CompanionUnit

end AuditAspects
