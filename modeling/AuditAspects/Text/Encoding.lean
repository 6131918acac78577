/-!
# Encoding texts

A text may hold lone surrogates, the halves of a pair without the other half, which are
code points but no characters.  Here the last 2048 characters for private use, from U+10D800
on, stand for them.  They stand for nothing else then, and come behind all other characters
in the order of texts.

An encoding writes every character, but not every lone surrogate: it refuses a text at the
first run of them that it does not take (`Encoding.refused?_eq_none_iff`).
-/

namespace AuditAspects.Text

/-! ## Lone surrogates -/

/-- How far behind a surrogate the character is that stands for it. -/
def surrogateDistance : Nat := 0x100000

/-- The code point of a surrogate. -/
def isSurrogatePoint (n : Nat) : Bool := 0xD800 ≤ n && n ≤ 0xDFFF

/-- A character that stands for a lone surrogate. -/
def isSurrogate (c : Char) : Bool :=
  surrogateDistance ≤ c.toNat && isSurrogatePoint (c.toNat - surrogateDistance)

/-- The code point that a character stands for. -/
def codePoint (c : Char) : Nat :=
  if isSurrogate c then c.toNat - surrogateDistance else c.toNat

/-- The character that stands for a code point. -/
def ofCodePoint (n : Nat) : Char :=
  Char.ofNat (if isSurrogatePoint n then n + surrogateDistance else n)

/-! ## Encodings -/

/-- How a text is turned into octets, by the lone surrogates that can be. -/
inductive Encoding
  /-- None can. -/
  | strict
  /-- Those can that stand for octets themselves, as in the names of files. -/
  | escaping
  /-- All can. -/
  | lenient
deriving DecidableEq

namespace Encoding

/-- A character that an encoding takes. -/
def takes (e : Encoding) (c : Char) : Bool :=
  match e with
  | strict => !isSurrogate c
  | escaping => !isSurrogate c || 0xDC80 ≤ codePoint c && codePoint c ≤ 0xDCFF
  | lenient => true

/-- A text that an encoding takes. -/
def Encodes (e : Encoding) (s : String) : Prop := ∀ c ∈ s.toList, e.takes c = true

instance (e : Encoding) (s : String) : Decidable (e.Encodes s) :=
  List.decidableBAll (fun c => e.takes c = true) s.toList

/-- A run of characters that an encoding refuses. -/
structure Refusal where
  /-- The first character of the run. -/
  char : Char
  /-- Its place in the text. -/
  first : Nat
  /-- The place of the last character of the run. -/
  last : Nat
deriving DecidableEq

/-- The first run that is refused, from a place on.  It begins with a character that is not
taken and goes on as long as there are lone surrogates, taken or not. -/
def refusedFrom (e : Encoding) (place : Nat) : List Char → Option Refusal
  | [] => none
  | c :: cs =>
      if e.takes c then refusedFrom e (place + 1) cs
      else some ⟨c, place, place + (cs.takeWhile isSurrogate).length⟩

/-- The first run of a text that is refused. -/
def refused? (e : Encoding) (s : String) : Option Refusal := refusedFrom e 0 s.toList

theorem refusedFrom_eq_none_iff {e : Encoding} {place : Nat} {cs : List Char} :
    e.refusedFrom place cs = none ↔ ∀ c ∈ cs, e.takes c = true := by
  induction cs generalizing place with
  | nil => simp [refusedFrom]
  | cons c cs ih =>
      rw [refusedFrom, List.forall_mem_cons]
      by_cases hc : e.takes c = true
      · rw [if_pos hc, ih]
        exact (and_iff_right hc).symm
      · rw [if_neg hc]
        exact iff_of_false (by simp) fun h => hc h.1

/-- A text can be encoded exactly if every character of it can. -/
theorem refused?_eq_none_iff {e : Encoding} {s : String} : e.refused? s = none ↔ e.Encodes s :=
  refusedFrom_eq_none_iff

@[simp] theorem refused?_lenient (s : String) : lenient.refused? s = none :=
  refused?_eq_none_iff.mpr fun _ _ => rfl

/-- What has no lone surrogate can be encoded in every way. -/
theorem encodes_of_strict {s : String} (h : strict.Encodes s) (e : Encoding) : e.Encodes s := by
  intro c hc
  have hplain : (!isSurrogate c) = true := h c hc
  cases e with
  | strict => exact hplain
  | escaping => exact Bool.or_eq_true_iff.mpr (.inl hplain)
  | lenient => rfl

@[simp] theorem encodes_append {e : Encoding} {s t : String} :
    e.Encodes (s ++ t) ↔ e.Encodes s ∧ e.Encodes t := by
  simp only [Encodes, String.toList_append, List.mem_append, or_imp, forall_and]

end Encoding

/-! ## Tests -/

example : codePoint (ofCodePoint 0xDC80) = 0xDC80 := by decide
/-- A run goes on with a surrogate that would be taken by itself. -/
example : Encoding.escaping.refused? (String.ofList
    ('a' :: [0xDC80, 0xD800, 0xDC80].map ofCodePoint)) = some ⟨ofCodePoint 0xD800, 2, 3⟩ := by
  decide

end AuditAspects.Text
