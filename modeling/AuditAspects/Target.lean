import AuditAspects.Config

/-!
# Targets

A target is asked one thing: whether it already declares a method of a given
name.  Where a target or a configuration is expected, a caller may hand over
some other value; `Offered` keeps the two cases apart.
-/

namespace AuditAspects

/-- A type to be extended, seen through the methods it declares.  The question
may fail, when the declared methods cannot be collected. -/
structure Target where
  /-- The type declares a method of this name. -/
  declares : String → Except Fault Bool

/-- The target that declares the methods of a list. -/
def Target.ofNames (names : List String) : Target :=
  ⟨fun name => .ok (names.contains name)⟩

/-- What a caller hands over where an `α` is expected. -/
inductive Offered (α : Type)
  /-- The expected thing. -/
  | proper (a : α)
  /-- Some other value. -/
  | foreign (v : Value)

/-- Equality of two offered configurations. -/
def Offered.sameConfig : Offered Config → Offered Config → Bool
  | .proper a, .proper b => a = b
  | .foreign v, .foreign w => v.same w
  | _, _ => false

end AuditAspects
