/-
This file holds decimal numbers as a coefficient and a power of ten.
-/

namespace FleetPanel

/-- The number `coefficient * 10 ^ exponent`. -/
structure Decimal where
  coefficient : Nat
  exponent : Int
deriving DecidableEq, Repr

namespace Decimal

def digits (decimal : Decimal) : List Char :=
  Nat.toDigits 10 decimal.coefficient

/-- The place of the point, counted from the left end of the digits. -/
def point (decimal : Decimal) : Int :=
  decimal.digits.length + decimal.exponent

/-- Moves up to `count` zeros from the end of the coefficient into the exponent. -/
def trim : Nat → Decimal → Decimal
  | 0, decimal => decimal
  | count + 1, decimal =>
      if decimal.coefficient != 0 && decimal.coefficient % 10 == 0 then
        trim count ⟨decimal.coefficient / 10, decimal.exponent + 1⟩
      else decimal

/-- The decimal as a text without exponent, and without a point if nothing stands behind it. -/
def plain (decimal : Decimal) : List Char :=
  let point := decimal.point
  if 0 ≤ decimal.exponent then
    decimal.digits ++ List.replicate decimal.exponent.toNat '0'
  else if 0 < point then
    decimal.digits.take point.toNat ++ '.' :: decimal.digits.drop point.toNat
  else '0' :: '.' :: List.replicate point.natAbs '0' ++ decimal.digits

end Decimal

end FleetPanel
