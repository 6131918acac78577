import AuditAspects.Proofs.SourceText

/-!
# Literals that end themselves

Escaping a text doubles its backslashes and then puts a backslash before every quote.
The second replacement meets no backslash of the first, so both can be done in one pass
(`flatMap_escapeChar`).

*Reading.*  `readLiteral` starts at the opening quote.  A backslash takes the next
character as it is, and the first quote that is not taken closes the literal.  What comes
after the closing quote has no influence on what is read (`readLiteral_append`).  So the
literal of a text is read up to its own end and no further, and nothing shorter is read at
all (`render_text_delimited`).  Hence no literal is the beginning of another.
-/

namespace AuditAspects

/-! ## Escaping by replacement -/

/-- A text with a character replaced wherever it occurs. -/
def Text.replaceChar (old : Char) (new cs : List Char) : List Char :=
  cs.flatMap fun c => if c = old then new else [c]

theorem Text.replaceChar_cons (old : Char) (new : List Char) (c : Char) (cs : List Char) :
    replaceChar old new (c :: cs) = (if c = old then new else [c]) ++ replaceChar old new cs :=
  rfl

/-- Escaping is one replacement after the other. -/
theorem flatMap_escapeChar (cs : List Char) :
    cs.flatMap escapeChar =
      Text.replaceChar '"' ['\\', '"'] (Text.replaceChar '\\' ['\\', '\\'] cs) := by
  induction cs with
  | nil => rfl
  | cons c cs ih =>
      rw [List.flatMap_cons, ih, Text.replaceChar_cons, escapeChar]
      by_cases hslash : c = '\\'
      · simp [hslash, Text.replaceChar_cons]
      · by_cases hquote : c = '"'
        · simp [hquote, Text.replaceChar_cons]
        · simp [hslash, hquote, Text.replaceChar_cons]

/-! ## Reading a literal -/

/-- The text of a literal, read from its opening quote, and what follows the closing
quote. -/
def readLiteral : List Char → Option (List Char × List Char)
  | '"' :: rest => readInside rest
  | _ => none

/-- A character that is neither a backslash nor a quote stands for itself. -/
theorem readInside_cons {c : Char} (hslash : c ≠ '\\') (hquote : c ≠ '"') (cs : List Char) :
    readInside (c :: cs) =
      (readInside cs).map fun (inside, after) => (c :: inside, after) := by
  rw [readInside]
  · exact fun h _ => hslash h
  · exact hquote
  · exact fun _ _ h _ => hslash h

/-- What is added behind a closing quote is left over. -/
theorem readInside_append {cs inside after : List Char} (h : readInside cs = some (inside, after))
    (more : List Char) : readInside (cs ++ more) = some (inside, after ++ more) := by
  induction cs using readInside.induct generalizing inside after with
  | case1 => cases h
  | case2 => cases h
  | case3 rest =>
      rw [readInside, Option.some.injEq, Prod.mk.injEq] at h
      obtain ⟨rfl, rfl⟩ := h
      rw [List.cons_append, readInside]
  | case4 c rest ih =>
      rw [readInside, Option.map_eq_some_iff] at h
      obtain ⟨⟨read, left⟩, hrest, hpair⟩ := h
      cases hpair
      rw [List.cons_append, List.cons_append, readInside, ih hrest]
      rfl
  | case5 c rest hlast hquote htaken ih =>
      have hslash : c ≠ '\\' := by
        rintro rfl
        cases rest with
        | nil => exact hlast rfl rfl
        | cons d rest => exact htaken d rest rfl rfl
      rw [readInside_cons hslash hquote, Option.map_eq_some_iff] at h
      obtain ⟨⟨read, left⟩, hrest, hpair⟩ := h
      cases hpair
      rw [List.cons_append, readInside_cons hslash hquote, ih hrest]
      rfl

/-- What is read does not depend on what comes behind the rest. -/
theorem readLiteral_append {cs text after : List Char} (h : readLiteral cs = some (text, after))
    (more : List Char) : readLiteral (cs ++ more) = some (text, after ++ more) := by
  rw [readLiteral.eq_def] at h
  split at h
  · exact readInside_append h more
  · cases h

/-- A literal is read up to its end. -/
theorem readLiteral_textLiteral (s : String) (r : List Char) :
    readLiteral ((textLiteral s).toList ++ r) = some (s.toList, r) := by
  rw [toList_textLiteral, List.cons_append, List.append_assoc]
  exact readInside_escape s.toList r

/-- No literal is read before its closing quote. -/
theorem readLiteral_of_prefix {s : String} {cs : List Char} (h : cs <+: (textLiteral s).toList)
    (hne : cs ≠ (textLiteral s).toList) : readLiteral cs = none := by
  obtain ⟨more, hmore⟩ := h
  cases hread : readLiteral cs with
  | none => rfl
  | some p =>
      have hwhole := readLiteral_textLiteral s []
      rw [List.append_nil, ← hmore, readLiteral_append hread, Option.some.injEq,
        Prod.mk.injEq] at hwhole
      obtain ⟨-, rfl⟩ := List.append_eq_nil_iff.mp hwhole.2
      rw [List.append_nil] at hmore
      exact absurd hmore hne

/-- No literal starts with another one. -/
theorem textLiteral_prefix_iff {s t : String} :
    (textLiteral s).toList <+: (textLiteral t).toList ↔ s = t := by
  constructor
  · rintro ⟨more, hmore⟩
    rw [← List.append_nil (textLiteral t).toList] at hmore
    exact (textLiteral_append_inj hmore).1
  · rintro rfl
    exact List.prefix_rfl

/-- A literal of a text that says itself where it ends. -/
structure Delimited (s literal : String) : Prop where
  /-- It is the text between quotes, with its backslashes doubled and then a backslash put
  before every quote. -/
  escaped : literal.toList =
    '"' :: Text.replaceChar '"' ['\\', '"'] (Text.replaceChar '\\' ['\\', '\\'] s.toList) ++ ['"']
  /-- Whatever follows it, it is read up to its end, and gives the text. -/
  read : ∀ rest : String, readLiteral (literal ++ rest).toList = some (s.toList, rest.toList)
  /-- Nothing is read that stops before its end. -/
  unfinished : ∀ cs, cs <+: literal.toList → cs ≠ literal.toList → readLiteral cs = none

/-- Every text attribute is written as a literal that says where it ends, so that no
literal begins the literal of another text. -/
theorem AttributeValue.render_text_delimited (n : NameTable) (s : String) :
    Delimited s ((AttributeValue.text s).render n) ∧
      ∀ (m : NameTable) (t : String),
        ((AttributeValue.text s).render n).toList <+: ((AttributeValue.text t).render m).toList ↔
          s = t := by
  refine ⟨⟨?_, fun rest => ?_, fun cs => readLiteral_of_prefix⟩, fun m t => textLiteral_prefix_iff⟩
  · rw [AttributeValue.render, toList_textLiteral, flatMap_escapeChar]
    rfl
  · rw [AttributeValue.render, String.toList_append]
    exact readLiteral_textLiteral s rest.toList

end AuditAspects
