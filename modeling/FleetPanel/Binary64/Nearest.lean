/-
This file rounds a ratio to the nearest binary64 number, a tie going to the even neighbour.
-/

import FleetPanel.Binary64.Basic

namespace FleetPanel.Binary64

/-- The natural number nearest to a ratio, a half going to the even neighbour. -/
def divideEven (numerator denominator : Nat) : Nat :=
  let quotient := numerator / denominator
  let twice := 2 * (numerator % denominator)
  if twice < denominator then quotient
  else if denominator < twice then quotient + 1
  else quotient + quotient % 2

/-- The bits that a magnitude in units has beyond the 53 of a significand. -/
def excessBits (units : Nat) : Nat :=
  Nat.log2 units - 52

/-- The rank of the number nearest to a ratio of units. Raising the significand by 2 ^ 52 raises
the exponent field by one, so a carry needs no case of its own. -/
def nearestRank (numerator denominator : Nat) : Nat :=
  let excess := excessBits (numerator / denominator)
  fractions * excess + divideEven numerator (denominator * Nat.pow 2 excess)

/-- The number nearest to a ratio. -/
def ofRatio (negative : Bool) (numerator denominator : Nat) : Binary64 :=
  ofRank negative (nearestRank (numerator * unitsOfOne) denominator)

def ofNat (number : Nat) : Binary64 :=
  ofRatio false number 1

def ofInt (number : Int) : Binary64 :=
  ofRatio (number < 0) number.natAbs 1

/-- The number nearest to a coefficient times a power of ten. Exponents that no digit can bring
back into range are settled without forming the power. -/
def ofDecimal (negative : Bool) (coefficient : Nat) (exponent : Int) : Binary64 :=
  let length := (Nat.toDigits 10 coefficient).length
  if coefficient = 0 then zero negative
  else if 310 < exponent + length then infinity negative
  else if exponent + length < -330 then zero negative
  else if exponent < 0 then ofRatio negative coefficient (Nat.pow 10 exponent.natAbs)
  else ofRatio negative (coefficient * Nat.pow 10 exponent.toNat) 1

/-- The product of two finite numbers, rounded once. -/
def multiply (left right : Binary64) : Binary64 :=
  ofRank (left.negative != right.negative) (nearestRank (left.units * right.units) unitsOfOne)

/-- The quotient of two finite numbers, rounded once. -/
def divide (left right : Binary64) : Binary64 :=
  ofRatio (left.negative != right.negative) left.units right.units

end FleetPanel.Binary64
