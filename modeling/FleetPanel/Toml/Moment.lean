/-
This file reads the dates and times of TOML.
-/

import FleetPanel.Text.Digits
import FleetPanel.Time.Date
import FleetPanel.Toml.Basic

namespace FleetPanel.Toml

/-- A number of a fixed count of digits within bounds. -/
def bounded? (width least greatest : Nat) (text : List Char) : Option (Nat × List Char) :=
  let digits := text.take width
  let number := Text.numberOf digits
  let isNumber := digits.length = width && digits.all Char.isDigit
  if isNumber && least ≤ number && number ≤ greatest then
    some (number, text.drop width)
  else none

def mark? (expected : Char) : List Char → Option (List Char)
  | found :: rest => if found == expected then some rest else none
  | [] => none

/-- The rest after a date that exists. -/
def afterDate? (text : List Char) : Option (List Char) := do
  let (year, rest) ← bounded? 4 0 9999 text
  let (month, rest) ← bounded? 2 1 12 (← mark? '-' rest)
  let (_, rest) ← bounded? 2 1 (Time.daysInMonth year month) (← mark? '-' rest)
  return rest

def afterFraction : List Char → List Char
  | '.' :: rest =>
      let (digits, after) := rest.span Char.isDigit
      if digits.isEmpty then '.' :: rest else after
  | text => text

/-- The rest after a time of day. -/
def afterTime? (text : List Char) : Option (List Char) := do
  let (_, rest) ← bounded? 2 0 23 text
  let (_, rest) ← bounded? 2 0 59 (← mark? ':' rest)
  let (_, rest) ← bounded? 2 0 60 (← mark? ':' rest)
  return afterFraction rest

def afterOffset? : List Char → Option (List Char)
  | 'Z' :: rest => some rest
  | 'z' :: rest => some rest
  | sign :: rest => do
      if sign != '+' && sign != '-' then none
      let (_, rest) ← bounded? 2 0 23 rest
      let (_, rest) ← bounded? 2 0 59 (← mark? ':' rest)
      return rest
  | [] => none

/-- The rest after a time behind a date. -/
def afterDelimitedTime? : List Char → Option (List Char)
  | delimiter :: rest =>
      if delimiter == 'T' || delimiter == 't' || delimiter == ' ' then afterTime? rest else none
  | [] => none

/-- A moment is a date, a time, or a date and a time with or without an offset. -/
def readMoment? (text : List Char) : Option (Item × List Char) :=
  match afterDate? text with
  | none => (afterTime? text).map (Item.moment, ·)
  | some rest =>
      match afterDelimitedTime? rest with
      | none => some (.moment, rest)
      | some rest => some (.moment, (afterOffset? rest).getD rest)

end FleetPanel.Toml
