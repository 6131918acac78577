import AuditAspects.CompanionUnit.Source

/-!
# Source texts told apart

What a source text says can be read off its characters, piece by piece.

*Lines.*  A source is its lines, each ended by a line feed (`toList_render`).

*Cuts.*  Equal texts are equal up to the first character of a kind
(`append_stop_inj`).

*Literals.*  `readInside` reads the inside of a literal up to its closing quote.  It
stops exactly there and gives the text that was escaped (`readInside_escape`), so no
text can pretend to end its literal (`textLiteral_append_inj`).

*Rows.*  Blocks that can be told from each other, and from what follows them, can be
told apart in a row (`flatMap_append_inj`).
-/

namespace AuditAspects

namespace Text

/-! ## Lines -/

/-- The characters of lines, each ended by a line feed. -/
def ofLines (lines : List String) : List Char :=
  lines.flatMap fun line => line.toList ++ ['\n']

@[simp] theorem ofLines_nil : ofLines [] = [] := rfl

@[simp] theorem ofLines_cons (line : String) (lines : List String) :
    ofLines (line :: lines) = line.toList ++ '\n' :: ofLines lines := by
  simp [ofLines]

@[simp] theorem ofLines_append (ls ms : List String) :
    ofLines (ls ++ ms) = ofLines ls ++ ofLines ms :=
  List.flatMap_append

theorem ofLines_flatMap {α : Type} (f : α → List String) (xs : List α) :
    ofLines (xs.flatMap f) = xs.flatMap fun x => ofLines (f x) :=
  List.flatMap_assoc

/-! ## Cuts -/

/-- Texts that go on after a stop are equal before it, at it and after it. -/
theorem append_stop_inj {p : Char → Prop} {xs ys r s : List Char} {c d : Char}
    (hxs : ∀ x ∈ xs, ¬p x) (hys : ∀ y ∈ ys, ¬p y) (hc : p c) (hd : p d)
    (h : xs ++ c :: r = ys ++ d :: s) : xs = ys ∧ c = d ∧ r = s := by
  induction xs generalizing ys with
  | nil =>
      cases ys with
      | nil =>
          obtain ⟨hcd, hrs⟩ := List.cons.inj h
          exact ⟨rfl, hcd, hrs⟩
      | cons y ys =>
          obtain ⟨hcy, -⟩ := List.cons.inj h
          exact absurd (hcy ▸ hc) (hys y List.mem_cons_self)
  | cons x xs ih =>
      cases ys with
      | nil =>
          obtain ⟨hxd, -⟩ := List.cons.inj h
          exact absurd (hxd ▸ hd) (hxs x List.mem_cons_self)
      | cons y ys =>
          obtain ⟨hxy, hrest⟩ := List.cons.inj h
          obtain ⟨hxys, hcd, hrs⟩ := ih (fun z hz => hxs z (List.mem_cons_of_mem _ hz))
            (fun z hz => hys z (List.mem_cons_of_mem _ hz)) hrest
          exact ⟨by rw [hxy, hxys], hcd, hrs⟩

/-! ## Rows of blocks -/

/-- Rows of blocks are equal block by block, if a block can be told from every other
block and from what follows a row. -/
theorem flatMap_append_inj {α : Type} {block : α → List Char} {P : α → Prop}
    {q : List Char → Prop}
    (hblock : ∀ a b r s, P a → P b → block a ++ r = block b ++ s → a = b ∧ r = s)
    (hfollows : ∀ a r s, P a → q s → block a ++ r ≠ s)
    {xs ys : List α} {r s : List Char} (hxs : ∀ x ∈ xs, P x) (hys : ∀ y ∈ ys, P y)
    (hr : q r) (hs : q s) (h : xs.flatMap block ++ r = ys.flatMap block ++ s) :
    xs = ys ∧ r = s := by
  induction xs generalizing ys with
  | nil =>
      cases ys with
      | nil => exact ⟨rfl, h⟩
      | cons y ys =>
          rw [List.flatMap_nil, List.nil_append, List.flatMap_cons, List.append_assoc] at h
          exact absurd h.symm (hfollows y _ r (hys y List.mem_cons_self) hr)
  | cons x xs ih =>
      rw [List.flatMap_cons, List.append_assoc] at h
      cases ys with
      | nil => exact absurd h (hfollows x _ s (hxs x List.mem_cons_self) hs)
      | cons y ys =>
          rw [List.flatMap_cons, List.append_assoc] at h
          obtain ⟨hxy, hrest⟩ := hblock x y _ _ (hxs x List.mem_cons_self)
            (hys y List.mem_cons_self) h
          obtain ⟨hxys, hrs⟩ := ih (fun z hz => hxs z (List.mem_cons_of_mem _ hz))
            (fun z hz => hys z (List.mem_cons_of_mem _ hz)) hrest
          exact ⟨by rw [hxy, hxys], hrs⟩

end Text

/-! ## Literals -/

/-- The inside of a literal and what follows its closing quote.  A backslash takes the
next character as it is. -/
def readInside : List Char → Option (List Char × List Char)
  | [] => none
  | ['\\'] => none
  | '"' :: rest => some ([], rest)
  | '\\' :: c :: rest => (readInside rest).map fun (inside, after) => (c :: inside, after)
  | c :: rest => (readInside rest).map fun (inside, after) => (c :: inside, after)

/-- An escaped text is read back up to the closing quote and no further. -/
theorem readInside_escape (cs r : List Char) :
    readInside (cs.flatMap escapeChar ++ '"' :: r) = some (cs, r) := by
  induction cs with
  | nil => rfl
  | cons c cs ih =>
      rw [List.flatMap_cons, List.append_assoc, escapeChar]
      by_cases hslash : c = '\\'
      · simp [hslash, readInside, ih]
      · by_cases hquote : c = '"'
        · simp [hquote, readInside, ih]
        · simp [hslash, hquote, readInside, ih]

theorem toList_textLiteral (s : String) :
    (textLiteral s).toList = '"' :: (s.toList.flatMap escapeChar ++ ['"']) := by
  simp [textLiteral, escapeText]

/-- A literal says where it ends. -/
theorem textLiteral_append_inj {s t : String} {r u : List Char}
    (h : (textLiteral s).toList ++ r = (textLiteral t).toList ++ u) : s = t ∧ r = u := by
  simp only [toList_textLiteral, List.cons_append, List.append_assoc, List.nil_append,
    List.cons.injEq, true_and] at h
  have hread := congrArg readInside h
  rw [readInside_escape, readInside_escape, Option.some.injEq, Prod.mk.injEq] at hread
  exact ⟨String.toList_inj.mp hread.1, hread.2⟩

/-! ## Units -/

theorem CompanionUnit.toList_render (u : CompanionUnit) :
    u.render.toList = Text.ofLines u.lines := by
  rw [CompanionUnit.render, String.toList_join, List.flatMap_map]
  refine congrArg (fun f => u.lines.flatMap f) (funext fun line => ?_)
  rw [String.toList_append]
  rfl

end AuditAspects
