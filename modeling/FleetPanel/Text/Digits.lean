/-
This file reads and writes runs of ASCII digits.
-/

namespace FleetPanel.Text

/-- The number that a run of decimal digits denotes. -/
def numberOf (digits : List Char) : Nat :=
  Nat.ofDigitChars 10 digits 0

/-- The value of an ASCII digit in a base up to sixteen. -/
def digitIn? (base : Nat) (character : Char) : Option Nat :=
  let code := character.toNat
  let value? :=
    if character.isDigit then some (code - 0x30)
    else if 'a' ≤ character && character ≤ 'f' then some (code - 0x57)
    else if 'A' ≤ character && character ≤ 'F' then some (code - 0x37)
    else none
  value?.filter (· < base)

/-- The number written by digits of a base, if all of them are. -/
def numberIn? (base : Nat) (digits : List Char) : Option Nat :=
  digits.foldlM (fun sofar digit => do return base * sofar + (← digitIn? base digit)) 0

/-- Decimal digits, filled with zeros on the left up to a width. -/
def padded (width number : Nat) : List Char :=
  let digits := Nat.toDigits 10 number
  List.replicate (width - digits.length) '0' ++ digits

theorem numberOfToDigits (number : Nat) : numberOf (Nat.toDigits 10 number) = number :=
  Nat.ofDigitChars_toDigits (by decide) (by decide)

theorem numberOfPadded (width number : Nat) : numberOf (padded width number) = number := by
  simp only [numberOf, padded, Nat.ofDigitChars_append, Nat.ofDigitChars_replicate_zero,
    Nat.mul_zero, Nat.ofDigitChars_toDigits (b := 10) (by decide) (by decide)]

end FleetPanel.Text
