/-
This file reads a number of seconds from a text.
-/

namespace FleetPanel.Config

inductive SecondsFault where
  | empty
  | invalidDigit
  | tooLarge
deriving DecidableEq, Repr

def SecondsFault.message : SecondsFault → String
  | empty => "cannot parse integer from empty string"
  | invalidDigit => "invalid digit found in string"
  | tooLarge => "number too large to fit in target type"

/-- Reads digits one by one; whichever fault comes first counts. -/
def readDigits (sofar : Nat) : List Char → Except SecondsFault Nat
  | [] => .ok sofar
  | character :: rest =>
      if character.isDigit then
        let next := 10 * sofar + (character.toNat - '0'.toNat)
        if next < UInt64.size then readDigits next rest else .error .tooLarge
      else .error .invalidDigit

/-- A number of 64 bits, with or without a plus sign. -/
def readSeconds (text : String) : Except SecondsFault Nat :=
  match text.toList with
  | [] => .error .empty
  | ['+'] => .error .invalidDigit
  | '+' :: digits => readDigits 0 digits
  | digits => readDigits 0 digits

end FleetPanel.Config
