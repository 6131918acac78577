/-!
# Member modifiers

A set of modifiers is a row of bits, as class files hold it.  Bits without a
keyword are kept and have no effect.  The keywords are written in one fixed
order, whatever the order in which the set was put together.
-/

namespace AuditAspects

/-- The modifiers that have a keyword, in the order they are written. -/
inductive Modifier
  /-- Visible everywhere. -/
  | publicAccess
  /-- Visible in subclasses and in its own package. -/
  | protectedAccess
  /-- Visible in its own class. -/
  | privateAccess
  /-- Of the class, not of its instances. -/
  | static
  /-- Never assigned again. -/
  | final
  /-- Not part of the stored state. -/
  | transient
deriving DecidableEq

namespace Modifier

/-- All modifiers, in the order they are written. -/
def all : List Modifier :=
  [publicAccess, protectedAccess, privateAccess, static, final, transient]

/-- The keyword of a modifier. -/
def keyword : Modifier → String
  | publicAccess => "public"
  | protectedAccess => "protected"
  | privateAccess => "private"
  | static => "static"
  | final => "final"
  | transient => "transient"

/-- The place of a modifier's bit. -/
def place : Modifier → Nat
  | publicAccess => 0
  | privateAccess => 1
  | protectedAccess => 2
  | static => 3
  | final => 4
  | transient => 7

end Modifier

/-- A set of modifiers. -/
structure Modifiers where
  /-- One bit for each modifier. -/
  bits : Nat
deriving DecidableEq

namespace Modifiers

/-- The set of one modifier. -/
def only (m : Modifier) : Modifiers := ⟨Nat.pow 2 m.place⟩

/-- All modifiers of either set. -/
def union (a b : Modifiers) : Modifiers := ⟨a.bits ||| b.bits⟩

/-- Membership in a set of modifiers. -/
def has (a : Modifiers) (m : Modifier) : Bool := a.bits.testBit m.place

/-- The set of a number.  A negative number stands for its complement in the
smallest power of two above it that is at least 256; the number -256 is empty. -/
def ofInt : Int → Modifiers
  | .ofNat n => ⟨n⟩
  | .negSucc n =>
      if n + 1 = 256 then ⟨0⟩ else ⟨max 256 (Nat.pow 2 ((n + 1).log2 + 1)) - (n + 1)⟩

/-- The keywords of a set, separated by spaces. -/
def keywords (a : Modifiers) : String :=
  " ".intercalate ((Modifier.all.filter a.has).map Modifier.keyword)

@[simp] theorem has_only (m n : Modifier) : (only m).has n = decide (m = n) := by
  cases m <;> cases n <;> decide

/-! ## Tests -/

example : (ofInt 13).keywords = "public protected static" := by decide +kernel
example : (ofInt 0x62).keywords = "private" := by decide +kernel
example : (ofInt (-3)).bits = 253 := by decide +kernel
example : (ofInt (-257)).bits = 255 := by decide +kernel

end Modifiers

end AuditAspects
