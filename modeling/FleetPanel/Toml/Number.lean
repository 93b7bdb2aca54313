/-
This file reads the numbers of TOML. An underscore may stand between two digits.
-/

import FleetPanel.Binary64.Nearest
import FleetPanel.Text.Digits
import FleetPanel.Toml.Basic

namespace FleetPanel.Toml

/-- The digits of a run and the rest after it. -/
def digitRun (isDigit : Char → Bool) : List Char → List Char × List Char
  | '_' :: digit :: rest =>
      if isDigit digit then
        let (digits, rest) := digitRun isDigit rest
        (digit :: digits, rest)
      else ([], '_' :: digit :: rest)
  | digit :: rest =>
      if isDigit digit then
        let (digits, rest) := digitRun isDigit rest
        (digit :: digits, rest)
      else ([], digit :: rest)
  | [] => ([], [])

/-- A run that begins with a digit. -/
def digits? (isDigit : Char → Bool) (text : List Char) : Option (List Char × List Char) := do
  if isDigit (← text.head?) then digitRun isDigit text else none

def sign : List Char → Bool × List Char
  | '-' :: rest => (true, rest)
  | '+' :: rest => (false, rest)
  | text => (false, text)

/-- Whole digits, with no zero before others. -/
def wholeDigits? : List Char → Option (List Char × List Char)
  | '0' :: rest => some (['0'], rest)
  | text => digits? Char.isDigit text

/-- An integer has to fit 64 bits. -/
def integer? (negative : Bool) (number : Nat) : Option Item :=
  if negative then if number ≤ UInt64.size / 2 then some (.integer (-number)) else none
  else if number < UInt64.size / 2 then some (.integer number) else none

/-- The digits after the mark of a base. -/
def basedInteger? (base : Nat) (text : List Char) : Option (Item × List Char) := do
  let (digits, rest) ← digits? (fun digit => (Text.digitIn? base digit).isSome) text
  return (← integer? false (← Text.numberIn? base digits), rest)

def readInteger? : List Char → Option (Item × List Char)
  | '0' :: 'x' :: rest => basedInteger? 16 rest
  | '0' :: 'o' :: rest => basedInteger? 8 rest
  | '0' :: 'b' :: rest => basedInteger? 2 rest
  | text => do
      let (negative, rest) := sign text
      let (digits, rest) ← wholeDigits? rest
      return (← integer? negative (Text.numberOf digits), rest)

/-- The digits of a fraction after its point. -/
def fraction? : List Char → Option (List Char × List Char)
  | '.' :: rest => digits? Char.isDigit rest
  | _ => none

def exponent? : List Char → Option (Int × List Char)
  | mark :: rest => do
      if mark != 'e' && mark != 'E' then none
      let (negative, rest) := sign rest
      let (digits, rest) ← digits? Char.isDigit rest
      let magnitude : Int := Text.numberOf digits
      return (if negative then -magnitude else magnitude, rest)
  | [] => none

/-- The nearest number to a decimal. It must not be the positive infinity. -/
def decimal? (negative : Bool) (whole fraction : List Char) (exponent : Int) : Option Item :=
  let number :=
    Binary64.ofDecimal negative (Text.numberOf (whole ++ fraction)) (exponent - fraction.length)
  if number == .infinity false then none else some (.float number)

def specialFloat? : List Char → Option (Item × List Char)
  | 'i' :: 'n' :: 'f' :: rest => some (.float (.infinity false), rest)
  | 'n' :: 'a' :: 'n' :: rest => some (.float .nan, rest)
  | _ => none

/-- A float has a fraction or an exponent, or is infinite or not a number. -/
def readFloat? (text : List Char) : Option (Item × List Char) :=
  let (negative, text) := sign text
  ordinary? negative text <|>
    (specialFloat? text).map fun (item, rest) => (withSign negative item, rest)
where
  ordinary? (negative : Bool) (text : List Char) : Option (Item × List Char) := do
    let (whole, rest) ← wholeDigits? text
    match fraction? rest with
    | some (fraction, rest) =>
        let (exponent, rest) := (exponent? rest).getD (0, rest)
        return (← decimal? negative whole fraction exponent, rest)
    | none =>
        let (exponent, rest) ← exponent? rest
        return (← decimal? negative whole [] exponent, rest)
  withSign (negative : Bool) : Item → Item
    | .float number => .float (if negative then number.negate else number)
    | item => item

end FleetPanel.Toml
