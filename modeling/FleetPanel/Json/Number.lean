/-
This file gives JSON numbers their values and their text.

A number with a fraction or an exponent is read from a significand below 2 ^ 64 that is rounded to
binary64 and then scaled by one power of ten, which rounds again. A number is written with the
shortest digits that read back.
-/

import FleetPanel.Binary64.Shortest
import FleetPanel.Json.Basic
import FleetPanel.Text.Digits

namespace FleetPanel.Json

/-- The digits of a number as far as they fit 64 bits, and how many of them do not. -/
def gather : Nat → List Char → Nat × Nat
  | significand, [] => (significand, 0)
  | significand, digit :: rest =>
      let next := 10 * significand + (digit.toNat - '0'.toNat)
      if next < UInt64.size then gather next rest else (significand, rest.length + 1)

/-- The number of places that one scaling covers. -/
def longestScale : Nat := 308

/-- The power of ten of a scaling, rounded once. -/
def powerOfTen (places : Nat) : Binary64 :=
  .ofNat (Nat.pow 10 places)

/-- Divides by a power of ten, at most 308 places at a time. Three whole scalings leave nothing of
any significand. -/
def scaleDown (number : Binary64) (places : Nat) : Binary64 :=
  let whole := (places - 1) / longestScale
  let rest := places - longestScale * whole
  if 3 < whole then .zero number.negative
  else (Nat.repeat (·.divide (powerOfTen longestScale)) whole number).divide (powerOfTen rest)

/-- A significand times a power of ten; `none` if it is beyond the finite numbers. -/
def scale? (significand : Nat) (exponent : Int) : Option Binary64 :=
  let number := Binary64.ofNat significand
  if significand = 0 then some number
  else if exponent < 0 then some (scaleDown number exponent.natAbs)
  else if exponent ≤ longestScale then
    let scaled := number.multiply (powerOfTen exponent.toNat)
    if scaled.isFinite then some scaled else none
  else none

/-- The number nearest to an integer, or the float itself. -/
def number? : Json → Option Binary64
  | integer value => some (.ofInt value)
  | float value => some value
  | _ => none

/-- The digits of a decimal with its point: in place when the leading digit stands for at least
10 ^ (-5) and less than 10 ^ 16, and after the first digit otherwise. -/
def decimalText (decimal : Decimal) : List Char :=
  let digits := decimal.digits
  let point := decimal.point
  if 0 ≤ decimal.exponent && point ≤ 16 then
    digits ++ List.replicate decimal.exponent.toNat '0' ++ ['.', '0']
  else if 0 < point && point ≤ 16 then
    digits.take point.toNat ++ '.' :: digits.drop point.toNat
  else if -5 < point && point ≤ 0 then
    '0' :: '.' :: List.replicate point.natAbs '0' ++ digits
  else
    let exponent := point - 1
    let fraction := if digits.length = 1 then [] else '.' :: digits.drop 1
    digits.take 1 ++ fraction ++ 'e' :: (if exponent < 0 then '-' else '+') ::
      Nat.toDigits 10 exponent.natAbs

def floatText (number : Binary64) : List Char :=
  if number.isFinite then
    (if number.negative then ['-'] else []) ++ decimalText (number.shortest .even)
  else "null".toList

def integerText (value : Int) : List Char :=
  (if value < 0 then ['-'] else []) ++ Nat.toDigits 10 value.natAbs

end FleetPanel.Json
