/-!
# Sorting

Insertion sort by a comparison.  It keeps the items (`sortBy_perm`), puts them in
order when the comparison is total and transitive (`sortBy_pairwise`), and leaves
equal items in the order they came.  Texts are compared by code point
(`textLe`), and items by their keys (`sortBy_key_pairwise_lt`).  The comparison cannot
fail; where it can, the order of the comparisons matters, and `Sorting.sort` says it.
-/

namespace AuditAspects

variable {α : Type}

/-- An item put before the first item that it does not exceed. -/
def insertBy (le : α → α → Bool) (a : α) : List α → List α
  | [] => [a]
  | b :: bs => if le a b then a :: b :: bs else b :: insertBy le a bs

/-- The items in ascending order. -/
def sortBy (le : α → α → Bool) : List α → List α
  | [] => []
  | a :: as => insertBy le a (sortBy le as)

theorem insertBy_perm (le : α → α → Bool) (a : α) (bs : List α) :
    (insertBy le a bs).Perm (a :: bs) := by
  induction bs with
  | nil => exact .refl _
  | cons b bs ih =>
      rw [insertBy]
      split
      · exact .refl _
      · exact (ih.cons b).trans (.swap a b bs)

/-- Sorting keeps the items. -/
theorem sortBy_perm (le : α → α → Bool) (as : List α) : (sortBy le as).Perm as := by
  induction as with
  | nil => exact .refl _
  | cons a as ih => exact (insertBy_perm le a _).trans (ih.cons a)

@[simp] theorem mem_sortBy {le : α → α → Bool} {a : α} {as : List α} :
    a ∈ sortBy le as ↔ a ∈ as :=
  (sortBy_perm le as).mem_iff

theorem insertBy_pairwise {le : α → α → Bool} (total : ∀ a b, le a b || le b a)
    (trans : ∀ a b c, le a b → le b c → le a c) (a : α) {bs : List α}
    (h : bs.Pairwise fun x y => le x y) : (insertBy le a bs).Pairwise fun x y => le x y := by
  induction bs with
  | nil => simp [insertBy]
  | cons b bs ih =>
      obtain ⟨hb, hbs⟩ := List.pairwise_cons.mp h
      rw [insertBy]
      split
      next hab =>
        refine List.pairwise_cons.mpr ⟨fun c hc => ?_, h⟩
        rcases List.mem_cons.mp hc with rfl | hc
        · exact hab
        · exact trans a b c hab (hb c hc)
      next hab =>
        refine List.pairwise_cons.mpr ⟨fun c hc => ?_, ih hbs⟩
        rcases List.mem_cons.mp ((insertBy_perm le a bs).mem_iff.mp hc) with rfl | hc
        · have := total c b
          simp only [Bool.or_eq_true] at this
          exact this.resolve_left hab
        · exact hb c hc

/-- Sorting by a total and transitive comparison puts the items in order. -/
theorem sortBy_pairwise {le : α → α → Bool} (total : ∀ a b, le a b || le b a)
    (trans : ∀ a b c, le a b → le b c → le a c) (as : List α) :
    (sortBy le as).Pairwise fun x y => le x y := by
  induction as with
  | nil => exact .nil
  | cons a as ih => exact insertBy_pairwise total trans a ih

/-- The order of texts by code point. -/
def textLe (a b : String) : Bool := decide (a ≤ b)

theorem textLe_total (a b : String) : textLe a b || textLe b a := by
  simpa [textLe] using String.le_total a b

theorem textLe_trans (a b c : String) (h : textLe a b) (h' : textLe b c) : textLe a c := by
  simp only [textLe, decide_eq_true_eq] at *
  exact String.le_trans h h'

section Key

variable (key : α → String)

/-- Sorting by keys puts the keys in ascending order. -/
theorem sortBy_key_pairwise (as : List α) :
    (sortBy (fun a b => textLe (key a) (key b)) as).Pairwise fun a b =>
      textLe (key a) (key b) := by
  have htotal : ∀ a b, (textLe (key a) (key b) || textLe (key b) (key a)) = true :=
    fun a b => textLe_total (key a) (key b)
  have htrans : ∀ a b c, textLe (key a) (key b) = true → textLe (key b) (key c) = true →
      textLe (key a) (key c) = true :=
    fun a b c => textLe_trans (key a) (key b) (key c)
  exact sortBy_pairwise htotal htrans as

/-- Where no key stands twice, each key exceeds the ones before it. -/
theorem sortBy_key_pairwise_lt {as : List α} (h : (as.map key).Nodup) :
    (sortBy (fun a b => textLe (key a) (key b)) as).Pairwise fun a b => key a < key b := by
  have hnodup : ((sortBy (fun a b => textLe (key a) (key b)) as).map key).Nodup :=
    ((sortBy_perm _ as).map key).nodup_iff.mpr h
  refine ((sortBy_key_pairwise key as).and (List.pairwise_map.mp hnodup)).imp ?_
  intro a b hab
  have hle : key a ≤ key b := by simpa [textLe] using hab.1
  exact String.not_le.mp fun hge => hab.2 (String.le_antisymm hle hge)

end Key

/-- Texts in ascending order. -/
def sortTexts : List String → List String := sortBy textLe

/-- Distinct texts are sorted strictly. -/
theorem sortTexts_pairwise_lt {texts : List String} (h : texts.Nodup) :
    (sortTexts texts).Pairwise (· < ·) := by
  have hkeys : (texts.map id).Nodup := by rwa [List.map_id]
  exact sortBy_key_pairwise_lt id hkeys

/-! ## Tests -/

example : sortTexts ["b", "a", "B", ""] = ["", "B", "a", "b"] := by decide

end AuditAspects
