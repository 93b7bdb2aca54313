/-
This file reads timestamps leniently: blanks may stand before numbers and separators, numbers may be
short, a year may have a sign and then any number of digits, and the offset may be written in
several ways.
-/

import FleetPanel.Text.Blank
import FleetPanel.Text.Digits
import FleetPanel.Text.Utf8
import FleetPanel.Time.Instant

namespace FleetPanel.Time

inductive Fault where
  | tooShort
  | invalid
  | outOfRange
  | tooLong
  | impossible
deriving DecidableEq, Repr

def Fault.message : Fault → String
  | tooShort => "premature end of input"
  | invalid => "input contains invalid characters"
  | outOfRange => "input is out of range"
  | tooLong => "trailing input"
  | impossible => "no possible date and time matching input"

namespace Relaxed

abbrev Outcome := Except Fault

/-- Up to `width` digits, at least one. -/
def digits (width : Nat) (text : List Char) : Outcome (List Char × List Char) :=
  let found := (text.take width).takeWhile Char.isDigit
  if !found.isEmpty then .ok (found, text.drop found.length)
  else if text.isEmpty then .error .tooShort
  else .error .invalid

/-- A number of up to two digits within bounds, after blanks. -/
def bounded (least greatest : Nat) (text : List Char) : Outcome (Nat × List Char) := do
  let (found, rest) ← digits 2 (Text.dropBlanks text)
  let number := Text.numberOf found
  if least ≤ number && number ≤ greatest then .ok (number, rest) else .error .outOfRange

/-- A separator, after blanks. -/
def separator (mark : Char) (text : List Char) : Outcome (List Char) :=
  match Text.dropBlanks text with
  | [] => .error .tooShort
  | found :: rest => if found == mark then .ok rest else .error .invalid

/-- The greatest magnitude of a year that is held before its range is checked. -/
def greatestYear : Nat := 2147483647

/-- A year, after blanks. Only a signed year may have more than four digits. -/
def year (text : List Char) : Outcome (Int × List Char) :=
  match Text.dropBlanks text with
  | '-' :: rest => do
      let (found, rest) ← digits rest.length rest
      let number := Text.numberOf found
      if number ≤ greatestYear + 1 then .ok (-number, rest) else .error .outOfRange
  | '+' :: rest => do
      let (found, rest) ← digits rest.length rest
      let number := Text.numberOf found
      if number ≤ greatestYear then .ok (number, rest) else .error .outOfRange
  | rest => do
      let (found, rest) ← digits 4 rest
      .ok (Text.numberOf found, rest)

/-- The nanoseconds of a fraction, zero without one. Digits past the ninth are dropped. -/
def nanoseconds : List Char → Outcome (Nat × List Char)
  | '.' :: rest => do
      let (found, rest) ← digits 9 rest
      .ok (Text.numberOf found * Nat.pow 10 (9 - found.length), rest.dropWhile Char.isDigit)
  | text => .ok (0, text)

/-- Two characters, told apart from fewer than two octets. -/
def pair (text : List Char) : Outcome (Char × Char × List Char) :=
  match text with
  | first :: second :: rest => .ok (first, second, rest)
  | _ => if Text.Utf8.size text < 2 then .error .tooShort else .error .invalid

/-- Two digits as an offset's hours. -/
def offsetHours (text : List Char) : Outcome (Nat × List Char) := do
  let (first, second, rest) ← pair text
  if first.isDigit && second.isDigit then .ok (Text.numberOf [first, second], rest)
  else .error .invalid

/-- Two digits as an offset's minutes. -/
def offsetMinutes (text : List Char) : Outcome (Nat × List Char) := do
  let (minutes, rest) ← offsetHours text
  if minutes < 60 then .ok (minutes, rest) else .error .outOfRange

def isOffsetSeparator (character : Char) : Bool :=
  character == ':' || Text.isBlank character

/-- Hours and minutes after the sign of an offset, in minutes. -/
def offsetMagnitude (text : List Char) : Outcome (Int × List Char) := do
  let (hours, rest) ← offsetHours text
  let (minutes, rest) ← offsetMinutes (rest.dropWhile isOffsetSeparator)
  .ok (60 * hours + minutes, rest)

/-- The minutes by which a local clock runs ahead of UTC, after blanks. -/
def offset (text : List Char) : Outcome (Int × List Char) :=
  match Text.dropBlanks text with
  | 'Z' :: rest | 'z' :: rest => .ok (0, rest)
  | '+' :: rest => offsetMagnitude rest
  | '-' :: rest | '\u2212' :: rest => do
      let (magnitude, rest) ← offsetMagnitude rest
      .ok (-magnitude, rest)
  | [] => .error .tooShort
  | rest =>
      if (rest.take 3).map Char.toUpper == ['U', 'T', 'C'] then .ok (0, rest.drop 3)
      else .error .invalid

/-- The mark between a date and a time. -/
def dateEnd : List Char → Outcome (List Char)
  | 'T' :: rest | 't' :: rest | ' ' :: rest => .ok rest
  | [] => .error .tooShort
  | _ => .error .invalid

end Relaxed

/-- The instant of parts that were each read within their own bounds. -/
def instantOf (year : Int) (month day hour minute second nanosecond : Nat) (ahead : Int) :
    Except Fault Instant :=
  if 1440 ≤ ahead.natAbs then .error .outOfRange
  else
    match Date.of? year month day with
    | none => .error .outOfRange
    | some date =>
        match Instant.ofLocal? date (.ofNumbers hour minute second nanosecond) ahead with
        | some instant => .ok instant
        | none => .error .impossible

open Relaxed in
/-- Reads a whole timestamp leniently. -/
def readRelaxed (text : List Char) : Except Fault Instant := do
  let (year, rest) ← year text
  let (month, rest) ← bounded 1 12 (← separator '-' rest)
  let (day, rest) ← bounded 1 31 (← separator '-' rest)
  let (hour, rest) ← bounded 0 23 (← dateEnd rest)
  let (minute, rest) ← bounded 0 59 (← separator ':' rest)
  let (second, rest) ← bounded 0 60 (← separator ':' rest)
  let (nanosecond, rest) ← nanoseconds rest
  let (ahead, rest) ← offset rest
  if (Text.dropBlanks rest).isEmpty then
    instantOf year month day hour minute second nanosecond ahead
  else .error .tooLong

end FleetPanel.Time
