/-!
# Decimal numbers

A decimal is some digits with a sign and the place of the last digit.  `normal`
drops the zeros at its end, and `text` writes it as messages do.
-/

namespace AuditAspects

/-- A real number by its shortest decimal: `± digits · 10 ^ exponent`. -/
structure Decimal where
  /-- The sign, which zero has too. -/
  negative : Bool
  /-- The significant digits, read as one number. -/
  digits : Nat
  /-- The place of the last digit. -/
  exponent : Int
deriving DecidableEq

namespace Decimal

/-- Drops up to `fuel` trailing zeros of the digits. -/
def trim : (fuel : Nat) → Decimal → Decimal
  | 0, d => d
  | fuel + 1, d =>
      if d.digits % 10 = 0 then
        trim fuel { d with digits := d.digits / 10, exponent := d.exponent + 1 }
      else d

/-- The decimal with no trailing zero; zero has the exponent zero. -/
def normal (d : Decimal) : Decimal :=
  if d.digits = 0 then { d with exponent := 0 } else trim d.digits.log2 d

/-- The text of a real number.  Between `0.0001` and `10 ^ 16` all digits are
written out, with at least one after the point; beyond, one digit stands before
the point and the exponent has a sign and at least two digits. -/
def text (d : Decimal) : String :=
  let ds := (Nat.toDigits 10 d.digits)
  let place : Int := ds.length + d.exponent
  let sign := if d.negative then "-" else ""
  let body : List Char :=
    if d.digits = 0 then "0.0".toList
    else if -4 < place && place ≤ 16 then
      if place ≤ 0 then "0.".toList ++ List.replicate (-place).toNat '0' ++ ds
      else if d.exponent ≥ 0 then ds ++ List.replicate d.exponent.toNat '0' ++ ".0".toList
      else ds.take place.toNat ++ '.' :: ds.drop place.toNat
    else
      let e := place - 1
      let es := Nat.toDigits 10 e.natAbs
      ds.take 1 ++ (if ds.length = 1 then [] else '.' :: ds.drop 1) ++ 'e' ::
        (if e < 0 then '-' else '+') :: List.replicate (2 - es.length) '0' ++ es
  sign ++ String.ofList body

/-! ## Tests -/

example : normal ⟨false, 2500, -2⟩ = ⟨false, 25, 0⟩ := by decide +kernel
example : text ⟨false, 15, -1⟩ = "1.5" := by decide +kernel
example : text ⟨true, 0, 0⟩ = "-0.0" := by decide +kernel
example : text ⟨false, 1, 16⟩ = "1e+16" := by decide +kernel
example : text ⟨false, 12, -6⟩ = "1.2e-05" := by decide +kernel
example : text ⟨false, 1, -4⟩ = "0.0001" := by decide +kernel
example : text ⟨false, 25, 2⟩ = "2500.0" := by decide +kernel

end Decimal

end AuditAspects
