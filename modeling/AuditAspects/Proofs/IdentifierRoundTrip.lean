import AuditAspects.Identifier

/-!
# Reading identifiers back

An identifier is spelled from a path and a type with no escapes, and read by cutting
at the first question mark and then at the first colon.  So what is written comes
back only where the parts hold no separator of their own.

*Identifiers.*  A value is an identifier when it is spelled from two parts that are
not empty, the first of them without a question mark (`parts?_eq_some_iff`).

*Paths.*  `ofName_name_iff` and `name_ofName_iff` say when a logical path and its
text determine each other.  Reading a text never gives a path with a longer text
(`length_name_ofName_le`), so what was cut at a question mark does not come back.
-/

namespace AuditAspects

/-- A text that holds a separator is cut at the first one. -/
theorem Text.exists_cut {sep : Char} {s : String} (h : sep ∈ s.toList) :
    ∃ before after : String,
      s = before ++ String.singleton sep ++ after ∧ sep ∉ before.toList := by
  cases hc : Text.cutFirst sep s.toList with
  | none => exact absurd h (Text.cutFirst_eq_none_iff.mp hc)
  | some p =>
      obtain ⟨before, after⟩ := p
      obtain ⟨hs, hsep⟩ := Text.cutFirst_eq_some_iff.mp hc
      refine ⟨String.ofList before, String.ofList after, ?_, by simpa using hsep⟩
      apply String.toList_inj.mp
      simpa using hs

namespace LogicalPath

/-- A name without a colon is a path in no module. -/
theorem ofName_of_not_mem {s : String} (h : ':' ∉ s.toList) : ofName s = ⟨s, ""⟩ := by
  rw [ofName, separator, Text.cutFirst_eq_none_iff.mpr h]

/-- The first colon of a name ends its module. -/
theorem ofName_of_cut {module path : String} (h : ':' ∉ module.toList) :
    ofName (module ++ ":" ++ path) = ⟨path, module⟩ := by
  have hc : Text.cutFirst separator (module ++ ":" ++ path).toList =
      some (module.toList, path.toList) := by
    rw [Text.cutFirst_eq_some_iff]
    exact ⟨by simp [separator], h⟩
  rw [ofName, hc]
  simp

theorem name_of_module_eq {p : LogicalPath} (h : p.module = "") : p.name = p.path := by
  rw [name, if_pos h]

theorem name_of_module_ne {p : LogicalPath} (h : p.module ≠ "") :
    p.name = p.module ++ ":" ++ p.path := by
  rw [name, if_neg h]
  rfl

/-- A text is a path's text unless it begins with a colon. -/
theorem name_ofName_iff (s : String) : (ofName s).name = s ↔ s.toList.head? ≠ some ':' := by
  by_cases h : ':' ∈ s.toList
  · obtain ⟨module, path, rfl, hm⟩ := Text.exists_cut h
    have hof : ofName (module ++ String.singleton ':' ++ path) = ⟨path, module⟩ :=
      ofName_of_cut hm
    rw [hof]
    by_cases he : module = ""
    · rw [name_of_module_eq he]
      refine iff_of_false ?_ (by simp [he])
      intro heq
      have := congrArg String.length heq
      simp [he] at this
    · rw [name_of_module_ne he]
      refine iff_of_true rfl ?_
      cases hl : module.toList with
      | nil => exact absurd (String.toList_eq_nil_iff.mp hl) he
      | cons c cs =>
          rw [hl] at hm
          simp only [String.toList_append, hl, List.cons_append, List.head?_cons, ne_eq,
            Option.some.injEq]
          exact fun hc => hm (hc ▸ List.mem_cons_self)
  · rw [ofName_of_not_mem h, name_of_module_eq rfl]
    refine iff_of_true rfl fun hhead => h ?_
    exact List.mem_of_mem_head? hhead

/-- A path comes back from its text unless the part before the first colon is not its
module. -/
theorem ofName_name_iff (p : LogicalPath) :
    ofName p.name = p ↔
      (p.module ≠ "" → ':' ∉ p.module.toList) ∧ (p.module = "" → ':' ∉ p.path.toList) := by
  by_cases hm : p.module = ""
  · rw [name_of_module_eq hm]
    simp only [hm, ne_eq, not_true_eq_false, false_implies, true_and, forall_const]
    by_cases hc : ':' ∈ p.path.toList
    · refine iff_of_false ?_ (by simpa using hc)
      obtain ⟨module, path, hp, hsep⟩ := Text.exists_cut hc
      have hof : ofName p.path = ⟨path, module⟩ := hp ▸ ofName_of_cut hsep
      intro heq
      have hpath : path = p.path := by rw [← heq, hof]
      have := congrArg String.length hp
      simp [hpath] at this
    · refine iff_of_true ?_ hc
      rw [ofName_of_not_mem hc, ← hm]
  · rw [name_of_module_ne hm]
    simp only [ne_eq, hm, not_false_eq_true, forall_const, false_implies, and_true]
    by_cases hc : ':' ∈ p.module.toList
    · refine iff_of_false ?_ (by simpa using hc)
      obtain ⟨first, rest, hp, hsep⟩ := Text.exists_cut hc
      have hname : p.module ++ ":" ++ p.path = first ++ ":" ++ (rest ++ ":" ++ p.path) := by
        rw [hp]
        simp [String.append_assoc]
      rw [hname, ofName_of_cut hsep]
      intro heq
      have hfirst : first = p.module := by rw [← heq]
      have hlength := congrArg String.length hp
      have hcolon : (String.singleton ':').length = 1 := rfl
      rw [hfirst, String.length_append, String.length_append] at hlength
      omega
    · refine iff_of_true ?_ hc
      rw [ofName_of_cut hc]

/-- Reading a name and writing it does not make it longer. -/
theorem length_name_ofName_le (s : String) : (ofName s).name.length ≤ s.length := by
  by_cases h : ':' ∈ s.toList
  · obtain ⟨module, path, rfl, hm⟩ := Text.exists_cut h
    have hof : ofName (module ++ String.singleton ':' ++ path) = ⟨path, module⟩ :=
      ofName_of_cut hm
    rw [hof]
    by_cases he : module = ""
    · rw [name_of_module_eq he]
      simp
    · rw [name_of_module_ne he]
      exact Nat.le_refl _
  · rw [ofName_of_not_mem h]
    exact Nat.le_refl _

end LogicalPath

namespace Identifier

/-! ## Spelling -/

/-- The text that is spelled from a path and a type. -/
def spell (path type : String) : String :=
  itemType ++ "#" ++ path ++ "?" ++ type

/-- A value is spelled from a path and a type that can be told apart. -/
def IsSpelled (v : Value) (path type : String) : Prop :=
  v = .text (spell path type) ∧ path ≠ "" ∧ '?' ∉ path.toList ∧ type ≠ ""

/-- An identifier is spelled from the names of its path and its type. -/
theorem create_eq_spell (t : TypeName) (p : LogicalPath) : create t p = spell p.name t.name := rfl

/-- A path with a separator is spelled as its first part is with a longer type. -/
theorem spell_append (path rest type : String) :
    spell (path ++ String.singleton '?' ++ rest) type =
      spell path (rest ++ String.singleton '?' ++ type) := by
  apply String.toList_inj.mp
  simp [spell]

/-- The path is determined by the type and the spelling. -/
theorem spell_left_inj {path path' type : String} (h : spell path type = spell path' type) :
    path = path' := by
  have hlist := congrArg String.toList h
  apply String.toList_inj.mp
  simpa [spell] using hlist

/-- Behind its opening a spelling has the path, the separator and the type. -/
theorem dropOpening_spell (path type : String) :
    dropOpening opening.toList (spell path type).toList =
      some (path.toList ++ '?' :: type.toList) := by
  rw [dropOpening_eq_some_iff]
  simp [spell, opening]

/-- Parts that can be told apart are read off their spelling. -/
theorem spell_inj {path path' type type' : String} (hp : '?' ∉ path.toList)
    (hp' : '?' ∉ path'.toList) (h : spell path type = spell path' type') :
    path = path' ∧ type = type' := by
  have hdrop := dropOpening_spell path type
  rw [h, dropOpening_spell, Option.some.injEq] at hdrop
  have hcut : Text.cutFirst '?' (path.toList ++ '?' :: type.toList) =
      some (path.toList, type.toList) := Text.cutFirst_eq_some_iff.mpr ⟨rfl, hp⟩
  rw [Text.cutFirst_eq_some_iff.mpr ⟨hdrop.symm, hp'⟩, Option.some.injEq, Prod.mk.injEq] at hcut
  exact ⟨(String.toList_inj.mp hcut.1).symm, (String.toList_inj.mp hcut.2).symm⟩

/-- The parts of a text are what it is spelled from. -/
theorem partsOf?_eq_some_iff {s path : String} {t : TypeName} :
    partsOf? s = some (path, t) ↔
      s = spell path t.name ∧ path ≠ "" ∧ '?' ∉ path.toList := by
  constructor
  · intro h
    simp only [partsOf?, Option.bind_eq_bind, Option.bind_eq_some_iff] at h
    obtain ⟨text, hdrop, ⟨before, after⟩, hcut, hrest⟩ := h
    obtain ⟨htext, hsep⟩ := Text.cutFirst_eq_some_iff.mp hcut
    cases before with
    | nil => simp at hrest
    | cons c cs =>
        simp only [List.isEmpty_cons, Bool.false_eq_true, ↓reduceIte, Option.map_eq_some_iff,
          Prod.mk.injEq] at hrest
        obtain ⟨t', ht, rfl, rfl⟩ := hrest
        have hname : t'.name = String.ofList after := TypeName.ofString?_eq_some_iff.mp ht
        refine ⟨?_, by simp, by simpa [separator] using hsep⟩
        apply String.toList_inj.mp
        rw [dropOpening_eq_some_iff.mp hdrop, htext, hname]
        simp [spell, opening, separator]
  · rintro ⟨rfl, hne, hsep⟩
    have hcut : Text.cutFirst separator (path.toList ++ '?' :: t.name.toList) =
        some (path.toList, t.name.toList) := Text.cutFirst_eq_some_iff.mpr ⟨rfl, hsep⟩
    simp [partsOf?, dropOpening_spell, hcut, hne, TypeName.ofString?_name]

/-- A value has parts exactly if it is spelled from them. -/
theorem parts?_eq_some_iff {v : Value} {path : String} {t : TypeName} :
    parts? v = some (path, t) ↔ IsSpelled v path t.name := by
  cases v with
  | text s =>
      rw [parts?, partsOf?_eq_some_iff, IsSpelled, Value.text.injEq]
      simp [t.name_ne]
  | null => simp [parts?, IsSpelled]
  | bool b => simp [parts?, IsSpelled]
  | int i => simp [parts?, IsSpelled]
  | real r => simp [parts?, IsSpelled]
  | list xs => simp [parts?, IsSpelled]
  | object es => simp [parts?, IsSpelled]
  | path s => simp [parts?, IsSpelled]
  | other k p => simp [parts?, IsSpelled]

/-- A value is an identifier exactly if it is spelled from a path and a type. -/
theorem isValid_iff (v : Value) : isValid v ↔ ∃ path type, IsSpelled v path type := by
  rw [isValid, Option.isSome_iff_exists]
  constructor
  · rintro ⟨⟨path, t⟩, h⟩
    exact ⟨path, t.name, parts?_eq_some_iff.mp h⟩
  · rintro ⟨path, type, h⟩
    exact ⟨(path, ⟨type, h.2.2.2⟩), parts?_eq_some_iff.mpr h⟩

/-! ## Reading -/

theorem parts_of_isSpelled {v : Value} {path : String} {t : TypeName}
    (h : IsSpelled v path t.name) : parts v = .ok (path, t) := by
  rw [parts, parts?_eq_some_iff.mpr h]

/-- Only what is no identifier has no parts. -/
theorem parts_eq_error_iff {v : Value} {f : Fault} :
    parts v = .error f ↔ isValid v = false ∧ f = .identifierInvalid v.plain := by
  rw [parts, isValid]
  cases parts? v with
  | some p => simp
  | none => simp [eq_comm]

theorem type_eq_error_iff {v : Value} {f : Fault} :
    type v = .error f ↔ isValid v = false ∧ f = .identifierInvalid v.plain := by
  rw [← parts_eq_error_iff, type]
  cases parts v with
  | ok p => simp [Except.map]
  | error g => simp [Except.map]

theorem path_eq_error_iff {v : Value} {f : Fault} :
    path v = .error f ↔ isValid v = false ∧ f = .identifierInvalid v.plain := by
  rw [← parts_eq_error_iff, path]
  cases parts v with
  | ok p => simp [Except.map]
  | error g => simp [Except.map]

/-- The type of an identifier is the one that it is spelled from. -/
theorem type_of_isSpelled {v : Value} {a : String} {t : TypeName} (h : IsSpelled v a t.name) :
    type v = .ok t := by
  rw [type, parts_of_isSpelled h]
  rfl

/-- The path of an identifier is read from the name that it is spelled from. -/
theorem path_of_isSpelled {v : Value} {a : String} {t : TypeName} (h : IsSpelled v a t.name) :
    path v = .ok (LogicalPath.ofName a) := by
  rw [path, parts_of_isSpelled h]
  rfl

/-- A spelling is an identifier when none of its parts is empty. -/
theorem isValid_spell_iff {a b : String} (ha : '?' ∉ a.toList) :
    isValid (.text (spell a b)) ↔ a ≠ "" ∧ b ≠ "" := by
  rw [isValid_iff]
  constructor
  · rintro ⟨path, type, h, hne, hsep, htype⟩
    obtain ⟨rfl, rfl⟩ := spell_inj ha hsep (Value.text.inj h)
    exact ⟨hne, htype⟩
  · rintro ⟨hne, htype⟩
    exact ⟨a, b, rfl, hne, ha, htype⟩

/-! ## Writing, then reading -/

section Created

variable (t : TypeName) (p : LogicalPath)

/-- What is created is an identifier unless the name of the path is empty or starts with the
separator. -/
theorem isValid_create_iff :
    isValid (.text (create t p)) ↔ p.name ≠ "" ∧ p.name.toList.head? ≠ some '?' := by
  rw [create_eq_spell]
  by_cases h : '?' ∈ p.name.toList
  · obtain ⟨x, y, hname, hx⟩ := Text.exists_cut h
    rw [hname, spell_append, isValid_spell_iff hx]
    by_cases he : x = ""
    · simp [he]
    · refine iff_of_true ⟨he, by simp⟩ ⟨by simp [he], ?_⟩
      cases hl : x.toList with
      | nil => exact absurd (String.toList_eq_nil_iff.mp hl) he
      | cons c cs =>
          rw [hl] at hx
          simp only [String.toList_append, hl, List.cons_append, List.head?_cons, ne_eq,
            Option.some.injEq]
          exact fun hc => hx (hc ▸ List.mem_cons_self)
  · rw [isValid_spell_iff h]
    refine and_congr_right fun _ => iff_of_true t.name_ne fun hhead => h ?_
    exact List.mem_of_mem_head? hhead

/-- Without a separator in the name of the path, an identifier is spelled from what it is
created of. -/
theorem isSpelled_create {t : TypeName} {p : LogicalPath} (h : p.name ≠ "")
    (hsep : '?' ∉ p.name.toList) : IsSpelled (.text (create t p)) p.name t.name :=
  ⟨rfl, h, hsep, t.name_ne⟩

/-- An identifier whose path holds a question mark is spelled from a shorter path and a
longer type. -/
theorem exists_isSpelled_create {t : TypeName} {p : LogicalPath}
    (hvalid : isValid (.text (create t p))) (h : '?' ∈ p.name.toList) :
    ∃ (a : String) (u : TypeName), IsSpelled (.text (create t p)) a u.name ∧
      a.length < p.name.length ∧ t.name.length < u.name.length := by
  obtain ⟨x, y, hname, hx⟩ := Text.exists_cut h
  have hcreate : create t p = spell x (y ++ String.singleton '?' ++ t.name) := by
    rw [create_eq_spell, hname, spell_append]
  rw [hcreate, isValid_spell_iff hx] at hvalid
  refine ⟨x, ⟨y ++ String.singleton '?' ++ t.name, hvalid.2⟩,
    ⟨congrArg Value.text hcreate, hvalid.1, hx, hvalid.2⟩, ?_, ?_⟩
  · rw [hname]
    simp only [String.length_append, String.length_singleton]
    omega
  · simp only [String.length_append, String.length_singleton]
    omega

/-- The type comes back exactly if the name of the path has no separator. -/
theorem type_create_iff (hvalid : isValid (.text (create t p))) :
    type (.text (create t p)) = .ok t ↔ '?' ∉ p.name.toList := by
  by_cases h : '?' ∈ p.name.toList
  · obtain ⟨a, u, hs, _, hu⟩ := exists_isSpelled_create hvalid h
    refine iff_of_false ?_ (by simpa using h)
    rw [type_of_isSpelled hs, Except.ok.injEq]
    rintro rfl
    exact Nat.lt_irrefl _ hu
  · have hne := ((isValid_create_iff t p).mp hvalid).1
    exact iff_of_true (type_of_isSpelled (isSpelled_create hne h)) h

/-- The path comes back exactly if its name has no separator and can be cut at its colon only.
-/
theorem path_create_iff (hvalid : isValid (.text (create t p))) :
    path (.text (create t p)) = .ok p ↔
      '?' ∉ p.name.toList ∧ (p.module ≠ "" → ':' ∉ p.module.toList) ∧
        (p.module = "" → ':' ∉ p.path.toList) := by
  by_cases h : '?' ∈ p.name.toList
  · obtain ⟨a, u, hs, ha, _⟩ := exists_isSpelled_create hvalid h
    refine iff_of_false ?_ fun hand => hand.1 h
    rw [path_of_isSpelled hs, Except.ok.injEq]
    intro heq
    have hle := LogicalPath.length_name_ofName_le a
    rw [heq] at hle
    omega
  · have hne := ((isValid_create_iff t p).mp hvalid).1
    rw [path_of_isSpelled (isSpelled_create hne h), Except.ok.injEq, LogicalPath.ofName_name_iff]
    simp [h]

end Created

/-- What an identifier is made of comes back exactly where its text determines it, and
an identifier is written again as it was exactly where its path does not begin with a
colon. -/
theorem create_round_trip :
    (∀ (t : TypeName) (p : LogicalPath),
      (isValid (.text (create t p)) ↔ p.name ≠ "" ∧ p.name.toList.head? ≠ some '?') ∧
      (isValid (.text (create t p)) →
        (type (.text (create t p)) = .ok t ↔ '?' ∉ p.name.toList) ∧
        (path (.text (create t p)) = .ok p ↔
          '?' ∉ p.name.toList ∧ (p.module ≠ "" → ':' ∉ p.module.toList) ∧
            (p.module = "" → ':' ∉ p.path.toList)))) ∧
    ∀ v : Value,
      (isValid v ↔ ∃ a b, IsSpelled v a b) ∧
      (∀ f, type v = .error f ↔ isValid v = false ∧ f = .identifierInvalid v.plain) ∧
      (∀ f, path v = .error f ↔ isValid v = false ∧ f = .identifierInvalid v.plain) ∧
      ∀ a b, IsSpelled v a b → ∃ t p, type v = .ok t ∧ path v = .ok p ∧
        (.text (create t p) = v ↔ a.toList.head? ≠ some ':') := by
  refine ⟨fun t p => ⟨isValid_create_iff t p, fun hvalid =>
    ⟨type_create_iff t p hvalid, path_create_iff t p hvalid⟩⟩, fun v => ?_⟩
  refine ⟨isValid_iff v, fun f => type_eq_error_iff, fun f => path_eq_error_iff, ?_⟩
  intro a b h
  obtain ⟨t, rfl⟩ : ∃ t : TypeName, t.name = b := ⟨⟨b, h.2.2.2⟩, rfl⟩
  refine ⟨t, LogicalPath.ofName a, type_of_isSpelled h, path_of_isSpelled h, ?_⟩
  rw [← LogicalPath.name_ofName_iff, h.1, Value.text.injEq, create_eq_spell]
  exact ⟨fun heq => spell_left_inj heq, fun hname => by rw [hname]⟩

/-- A path inside a module comes back although it holds a colon itself; an identifier
whose path begins with a colon is written without it. -/
theorem create_round_trip_colons :
    isValid (.text (create .calendar ⟨"x:y", "core"⟩)) ∧
      path (.text (create .calendar ⟨"x:y", "core"⟩)) = .ok ⟨"x:y", "core"⟩ ∧
      IsSpelled (.text (spell ":x" "a?B")) ":x" "a?B" ∧
      ∃ t p, type (.text (spell ":x" "a?B")) = .ok t ∧ path (.text (spell ":x" "a?B")) = .ok p ∧
        .text (create t p) ≠ Value.text (spell ":x" "a?B") := by
  have hvalid : isValid (.text (create .calendar ⟨"x:y", "core"⟩)) := by decide +kernel
  have hspelled : IsSpelled (.text (spell ":x" "a?B")) ":x" "a?B" :=
    ⟨rfl, by decide, by decide, by decide⟩
  refine ⟨hvalid, ?_, hspelled, ?_⟩
  · exact ((create_round_trip.1 _ _).2 hvalid).2.mpr ⟨by decide, by decide, by decide⟩
  · obtain ⟨t, p, ht, hp, hsame⟩ := (create_round_trip.2 _).2.2.2 _ _ hspelled
    exact ⟨t, p, ht, hp, fun h => hsame.mp h (by decide)⟩

end Identifier

end AuditAspects
