/-!
# Blank text

The characters that leave no mark on the page, and the texts made of nothing
else.  A column override that is blank counts as absent, so this class decides
which overrides take effect.
-/

namespace AuditAspects.Text

/-- The blank characters as closed ranges of code points: the ASCII line and
field separators, the space, and the space and line separators of Unicode. -/
def blankRanges : List (Nat × Nat) :=
  [(0x9, 0xD), (0x1C, 0x20), (0x85, 0x85), (0xA0, 0xA0), (0x1680, 0x1680), (0x2000, 0x200A),
   (0x2028, 0x2029), (0x202F, 0x202F), (0x205F, 0x205F), (0x3000, 0x3000)]

/-- Membership in the blank characters. -/
def isBlankChar (c : Char) : Bool :=
  blankRanges.any fun r => r.1 ≤ c.toNat && c.toNat ≤ r.2

/-- A text with no character that leaves a mark. -/
def isBlank (s : String) : Bool :=
  s.toList.all isBlankChar

/-- A text is blank unless some character of it leaves a mark. -/
theorem isBlank_eq_false_iff {s : String} :
    isBlank s = false ↔ ∃ c ∈ s.toList, isBlankChar c = false := by
  simp [isBlank]

/-! ## Tests -/

example : (blankRanges.map fun r => r.2 + 1 - r.1).sum = 29 := by decide
example : isBlank "" = true := by decide
example : isBlank " \t\n" = true := by decide
example : isBlank " a " = false := by decide
/-- The zero width space is no blank character. -/
example : isBlankChar (Char.ofNat 0x200B) = false := by decide

end AuditAspects.Text
