import AuditAspects.Decimal

/-!
# Real numbers

A real number is held with 53 binary digits.  Every number held is a whole multiple of
the least one above zero, so its size is a whole number of such *units*
(`Decimal.units`), and numbers of all kinds compare by their units.  A decimal stands
for the number nearest to it.  A number is written by the shortest decimal that stands
for it, and of those by the nearest (`Decimal.ofUnits`).

Beyond the largest number there is an infinite one on each side, and there is a number
that is none, the outcome of an undefined operation, which equals nothing.
-/

namespace AuditAspects

/-! ## Units -/

/-- The number of units in one, by its exponent to two. -/
def unitExponent : Nat := 1074

/-- The units of the least size that is no longer held. -/
def unitLimit : Nat := Nat.pow 2 (1024 + unitExponent)

/-- A quotient rounded to the nearest whole number; a half goes to the even one. -/
def roundDiv (n d : Nat) : Nat :=
  let q := n / d
  let r := 2 * (n % d)
  if r < d || (r == d && q % 2 == 0) then q else q + 1

/-- A quotient rounded to 53 binary digits. -/
def roundUnits (n d : Nat) : Nat :=
  let step := Nat.pow 2 ((n / d).log2 - 52)
  roundDiv n (d * step) * step

namespace Decimal

/-- The number of digits before the point, below zero if zeros follow the point. -/
def place (d : Decimal) : Int :=
  (Nat.toDigits 10 d.digits).length + d.exponent

/-- The units of the number nearest to a decimal, without its sign. -/
def units (d : Decimal) : Nat :=
  roundUnits (d.digits * Nat.pow 10 d.exponent.toNat * Nat.pow 2 unitExponent)
    (Nat.pow 10 (-d.exponent).toNat)

/-- The decimal nearest to a number of units from below, and the next one, with their
last digit at a given place. -/
def neighbours (units : Nat) (exponent : Int) : Decimal × Decimal :=
  let n := units * Nat.pow 10 (-exponent).toNat
  let d := Nat.pow 2 unitExponent * Nat.pow 10 exponent.toNat
  let below : Decimal := ⟨false, n / d, exponent⟩
  let above : Decimal := ⟨false, n / d + 1, exponent⟩
  if roundDiv n d = n / d then (below, above) else (above, below)

/-- The first decimal that stands for a number of units, starting with the last digit
at a given place and adding up to `fuel` digits. -/
def shortest (units : Nat) : (fuel : Nat) → (exponent : Int) → Option Decimal
  | 0, _ => none
  | fuel + 1, exponent =>
      let (nearer, farther) := neighbours units exponent
      if nearer.units = units then some nearer
      else if farther.units = units then some farther
      else shortest units fuel (exponent - 1)

/-- The decimal that a number of units is written by: the shortest of those that stand
for it, given one of them. -/
def ofUnits (units : Nat) (d : Decimal) : Decimal :=
  ((shortest units 18 (d.place - 1)).getD d).normal

end Decimal

/-! ## Numbers -/

/-- A real number. -/
inductive RealNumber
  /-- A number of finite size, by the decimal that it is written by. -/
  | finite (d : Decimal)
  /-- A number beyond all sizes. -/
  | infinite (negative : Bool)
  /-- The outcome of an undefined operation. -/
  | undefined
deriving DecidableEq

namespace RealNumber

/-- The number nearest to a decimal. -/
def ofDecimal (d : Decimal) : RealNumber :=
  let zero := finite ⟨d.negative, 0, 0⟩
  if d.digits = 0 || d.place < -330 then zero
  else if d.place > 310 then infinite d.negative
  else
    let units := d.units
    if units = 0 then zero
    else if unitLimit ≤ units then infinite d.negative
    else finite { Decimal.ofUnits units d with negative := d.negative }

/-- The text of a real number. -/
def text : RealNumber → String
  | finite d => d.text
  | infinite false => "inf"
  | infinite true => "-inf"
  | undefined => "nan"

/-- The number is zero, of either sign. -/
def isZero : RealNumber → Bool
  | finite d => d.digits == 0
  | _ => false

end RealNumber

/-! ## Sizes -/

/-- Where a number stands among all others. -/
inductive Size
  /-- Below all of finite size. -/
  | least
  /-- At a number of units. -/
  | units (n : Int)
  /-- Above all of finite size. -/
  | greatest
deriving DecidableEq

namespace Size

/-- The size of a whole number. -/
def ofInt (i : Int) : Size :=
  units (i * Int.ofNat (Nat.pow 2 unitExponent))

/-- A size is below another. -/
def below : Size → Size → Bool
  | least, least => false
  | least, _ => true
  | units m, units n => m < n
  | units _, greatest => true
  | _, _ => false

end Size

/-- The size of a real number, which an undefined one does not have. -/
def RealNumber.size? : RealNumber → Option Size
  | finite d => some (.units (if d.negative then -Int.ofNat d.units else Int.ofNat d.units))
  | infinite negative => some (if negative then .least else .greatest)
  | undefined => none

/-! ## Tests -/

/-- The least number above zero is one unit. -/
example : Decimal.units ⟨false, 5, -324⟩ = 1 := by decide +kernel
/-- Half a unit goes to zero, as the even one. -/
example : (RealNumber.ofDecimal ⟨false, 24, -325⟩).isZero = true := by decide +kernel
example : RealNumber.ofDecimal ⟨true, 18, 307⟩ = .infinite true := by decide +kernel
example : (RealNumber.ofDecimal ⟨false, 17976931348623157, 292⟩).text
    = "1.7976931348623157e+308" := by decide +kernel
example : (RealNumber.ofDecimal ⟨false, 1000000000000000055511151231, -28⟩).text = "0.1" := by
  decide +kernel
/-- A power of two, where the nearest decimal of sixteen digits stands for another. -/
example : (RealNumber.ofDecimal ⟨false, 5684341886080801486968994140625, -44⟩).text
    = "5.684341886080802e-14" := by decide +kernel
/-- The number nearest to `10 ^ 23` is below it. -/
example : ((RealNumber.ofDecimal ⟨false, 1, 23⟩).size?.map
    fun s => s.below (Size.ofInt 100000000000000000000000)) = some true := by decide +kernel

end AuditAspects
