/-!
# Cutting a text at a separator

A text is cut at the first or at the last place of a separator, or into all its
segments.  `cutFirst_eq_some_iff` and `cutLast_eq_some_iff` say where the cut
falls.  Joining the segments again gives the text (`intercalate_segments`), and joined
texts have the segments of each (`segments_intercalate`).
-/

namespace AuditAspects.Text

/-- The parts before and after the first separator. -/
def cutFirst (sep : Char) : List Char → Option (List Char × List Char)
  | [] => none
  | c :: cs =>
      if c = sep then some ([], cs)
      else (cutFirst sep cs).map fun (before, after) => (c :: before, after)

/-- The parts before and after the last separator. -/
def cutLast (sep : Char) : List Char → Option (List Char × List Char)
  | [] => none
  | c :: cs =>
      match cutLast sep cs with
      | some (before, after) => some (c :: before, after)
      | none => if c = sep then some ([], cs) else none

/-- The parts between the separators, one more than there are separators. -/
def segments (sep : Char) : List Char → List (List Char)
  | [] => [[]]
  | c :: cs =>
      if c = sep then [] :: segments sep cs
      else
        match segments sep cs with
        | [] => [[c]]
        | s :: rest => (c :: s) :: rest

/-- The first cut leaves no separator before it and loses nothing. -/
theorem cutFirst_eq_some_iff {sep : Char} {cs before after : List Char} :
    cutFirst sep cs = some (before, after) ↔ cs = before ++ sep :: after ∧ sep ∉ before := by
  induction cs generalizing before with
  | nil => simp [cutFirst]
  | cons c cs ih =>
      by_cases h : c = sep
      · cases before with
        | nil => simp [cutFirst, h, eq_comm]
        | cons b bs =>
            simp only [cutFirst, h, ↓reduceIte, Option.some.injEq, Prod.mk.injEq,
              List.nil_eq, reduceCtorEq, false_and, List.cons_append, List.cons.injEq,
              List.mem_cons, not_or, false_iff, not_and, Decidable.not_not]
            intro hb hb'
            exact absurd hb.1 hb'
      · cases before with
        | nil => simp [cutFirst, h]
        | cons b bs =>
            simp only [cutFirst, h, ↓reduceIte, Option.map_eq_some_iff, Prod.exists,
              Prod.mk.injEq, List.cons.injEq, List.cons_append, List.mem_cons, not_or]
            constructor
            · rintro ⟨x, y, hxy, ⟨rfl, rfl⟩, rfl⟩
              obtain ⟨rfl, hn⟩ := ih.mp hxy
              exact ⟨⟨rfl, rfl⟩, fun e => h e.symm, hn⟩
            · rintro ⟨⟨rfl, rfl⟩, _, hn⟩
              exact ⟨bs, after, ih.mpr ⟨rfl, hn⟩, ⟨rfl, rfl⟩, rfl⟩

/-- There is nothing to cut exactly when the separator does not occur. -/
theorem cutFirst_eq_none_iff {sep : Char} {cs : List Char} :
    cutFirst sep cs = none ↔ sep ∉ cs := by
  induction cs with
  | nil => simp [cutFirst]
  | cons c cs ih =>
      by_cases h : c = sep
      · simp [cutFirst, h]
      · rw [cutFirst, if_neg h, Option.map_eq_none_iff, ih, List.mem_cons, not_or]
        exact ⟨fun hn => ⟨fun e => h e.symm, hn⟩, And.right⟩

/-- There is no last cut exactly when the separator does not occur. -/
theorem cutLast_eq_none_iff {sep : Char} {cs : List Char} :
    cutLast sep cs = none ↔ sep ∉ cs := by
  induction cs with
  | nil => simp [cutLast]
  | cons c cs ih =>
      rw [cutLast]
      cases hc : cutLast sep cs with
      | some p =>
          have : sep ∈ cs := by
            rw [hc] at ih
            simpa using ih
          simp [this]
      | none =>
          have hn : sep ∉ cs := ih.mp hc
          by_cases h : c = sep
          · simp [h]
          · simp only [h, ↓reduceIte, List.mem_cons, not_or, true_iff]
            exact ⟨fun e => h e.symm, hn⟩

/-- The last cut leaves no separator after it and loses nothing. -/
theorem cutLast_eq_some_iff {sep : Char} {cs before after : List Char} :
    cutLast sep cs = some (before, after) ↔ cs = before ++ sep :: after ∧ sep ∉ after := by
  induction cs generalizing before with
  | nil => simp [cutLast]
  | cons c cs ih =>
      rw [cutLast]
      cases hc : cutLast sep cs with
      | some p =>
          cases before with
          | nil =>
              have hm : sep ∈ cs := by
                refine Decidable.byContradiction fun hn => ?_
                rw [cutLast_eq_none_iff.mpr hn] at hc
                cases hc
              simp only [Option.some.injEq, Prod.mk.injEq, reduceCtorEq, false_and,
                List.nil_append, List.cons.injEq, false_iff, not_and, Decidable.not_not]
              rintro ⟨_, rfl⟩
              exact hm
          | cons b bs =>
              have hb : cutLast sep cs = some (bs, after) ↔ cs = bs ++ sep :: after ∧ sep ∉ after :=
                ih
              rw [hc, Option.some.injEq] at hb
              simp only [Option.some.injEq, Prod.mk.injEq, List.cons.injEq, List.cons_append]
              rw [and_assoc, and_assoc, ← hb, Prod.ext_iff]
      | none =>
          have hn : sep ∉ cs := cutLast_eq_none_iff.mp hc
          cases before with
          | nil =>
              by_cases h : c = sep
              · simp only [h, ↓reduceIte, Option.some.injEq, Prod.mk.injEq, true_and,
                  List.nil_append, List.cons.injEq]
                exact ⟨fun e => ⟨e, e ▸ hn⟩, And.left⟩
              · simp [h]
          | cons b bs =>
              have hne : (if c = sep then some (([] : List Char), cs) else none)
                  ≠ some (b :: bs, after) := by
                split <;> simp
              simp only [hne, List.cons_append, List.cons.injEq, false_iff, not_and]
              rintro ⟨_, rfl⟩
              simp at hn

/-- A text has at least one segment. -/
theorem segments_ne_nil (sep : Char) (cs : List Char) : segments sep cs ≠ [] := by
  cases cs with
  | nil => simp [segments]
  | cons c cs =>
      rw [segments]
      split
      · simp
      · split <;> simp

/-- The segments, joined by the separator, are the text. -/
theorem intercalate_segments (sep : Char) (cs : List Char) :
    [sep].intercalate (segments sep cs) = cs := by
  induction cs with
  | nil => simp [segments, List.intercalate]
  | cons c cs ih =>
      rw [segments]
      by_cases h : c = sep
      · obtain ⟨s, rest, hs⟩ := List.exists_cons_of_ne_nil (segments_ne_nil sep cs)
        rw [hs] at ih
        simp [h, hs, List.intercalate] at ih ⊢
        exact ih
      · obtain ⟨s, rest, hs⟩ := List.exists_cons_of_ne_nil (segments_ne_nil sep cs)
        rw [hs] at ih
        cases rest with
        | nil => simpa [h, hs, List.intercalate] using ih
        | cons r rs => simpa [h, hs, List.intercalate] using ih

/-- A segment keeps the order of the text. -/
theorem sublist_of_mem_segments {sep : Char} {cs s : List Char} (h : s ∈ segments sep cs) :
    s.Sublist cs := by
  induction cs generalizing s with
  | nil =>
      rw [segments, List.mem_singleton] at h
      exact h ▸ List.Sublist.refl _
  | cons c cs ih =>
      rw [segments] at h
      split at h
      · rcases List.mem_cons.mp h with rfl | h
        · exact List.nil_sublist _
        · exact (ih h).cons c
      · obtain ⟨first, rest, hs⟩ := List.exists_cons_of_ne_nil (segments_ne_nil sep cs)
        rw [hs] at h ih
        rcases List.mem_cons.mp h with rfl | h
        · exact (ih List.mem_cons_self).cons_cons c
        · exact (ih (List.mem_cons_of_mem _ h)).cons c

/-- A segment holds no separator. -/
theorem not_mem_of_mem_segments {sep : Char} {cs s : List Char} (h : s ∈ segments sep cs) :
    sep ∉ s := by
  induction cs generalizing s with
  | nil =>
      rw [segments, List.mem_singleton] at h
      exact h ▸ List.not_mem_nil
  | cons c cs ih =>
      rw [segments] at h
      split at h
      · rcases List.mem_cons.mp h with rfl | h
        · exact List.not_mem_nil
        · exact ih h
      next hc =>
        obtain ⟨first, rest, hs⟩ := List.exists_cons_of_ne_nil (segments_ne_nil sep cs)
        rw [hs] at h ih
        rcases List.mem_cons.mp h with rfl | h
        · rw [List.mem_cons, not_or]
          exact ⟨Ne.symm hc, ih List.mem_cons_self⟩
        · exact ih (List.mem_cons_of_mem _ h)

/-- Every other character is in a segment. -/
theorem exists_mem_segments {sep c : Char} {cs : List Char} (h : c ∈ cs) (hc : c ≠ sep) :
    ∃ s ∈ segments sep cs, c ∈ s := by
  induction cs with
  | nil => exact absurd h List.not_mem_nil
  | cons d cs ih =>
      obtain ⟨first, rest, hs⟩ := List.exists_cons_of_ne_nil (segments_ne_nil sep cs)
      rw [segments]
      split
      next hd =>
        obtain ⟨s, hmem, hcs⟩ := ih ((List.mem_cons.mp h).resolve_left (hd ▸ hc))
        exact ⟨s, List.mem_cons_of_mem _ hmem, hcs⟩
      · rw [hs] at ih ⊢
        rcases List.mem_cons.mp h with rfl | h
        · exact ⟨c :: first, List.mem_cons_self, List.mem_cons_self⟩
        · obtain ⟨s, hmem, hcs⟩ := ih h
          rcases List.mem_cons.mp hmem with rfl | hmem
          · exact ⟨d :: s, List.mem_cons_self, List.mem_cons_of_mem _ hcs⟩
          · exact ⟨s, List.mem_cons_of_mem _ hmem, hcs⟩

theorem segments_of_not_mem {sep : Char} {cs : List Char} (h : sep ∉ cs) :
    segments sep cs = [cs] := by
  induction cs with
  | nil => rfl
  | cons c cs ih =>
      rw [List.mem_cons, not_or] at h
      obtain ⟨hc, hcs⟩ := h
      rw [segments, if_neg (Ne.symm hc), ih hcs]

/-- A separator divides the segments before it from those after it. -/
theorem segments_append (sep : Char) (cs ds : List Char) :
    segments sep (cs ++ sep :: ds) = segments sep cs ++ segments sep ds := by
  induction cs with
  | nil => simp [segments]
  | cons c cs ih =>
      rw [List.cons_append, segments, segments, ih]
      by_cases h : c = sep
      · simp [h]
      · obtain ⟨s, rest, hs⟩ := List.exists_cons_of_ne_nil (segments_ne_nil sep cs)
        simp [h, hs]

/-- The segments of joined texts are the segments of each. -/
theorem segments_intercalate (sep : Char) {texts : List (List Char)} (h : texts ≠ []) :
    segments sep ([sep].intercalate texts) = texts.flatMap (segments sep) := by
  induction texts with
  | nil => exact absurd rfl h
  | cons text texts ih =>
      cases texts with
      | nil => simp [List.intercalate]
      | cons next texts =>
          have hjoined : [sep].intercalate (text :: next :: texts) =
              text ++ sep :: [sep].intercalate (next :: texts) := by
            simp [List.intercalate]
          rw [hjoined, segments_append, ih (List.cons_ne_nil _ _)]
          rfl

/-! ## Tests -/

example : cutLast '.' "a.b.c".toList = some ("a.b".toList, "c".toList) := by decide
example : cutFirst ':' "m:a:b".toList = some ("m".toList, "a:b".toList) := by decide
example : segments '.' "a..b".toList = ["a".toList, [], "b".toList] := by decide

end AuditAspects.Text
