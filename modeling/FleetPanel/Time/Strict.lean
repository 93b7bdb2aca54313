/-
This file reads timestamps of the exact RFC 3339 shape: numbers of fixed width, one mark between the
date and the time, an offset with a colon, and nothing else.
-/

import FleetPanel.Time.Relaxed

namespace FleetPanel.Time

namespace Strict

/-- A number of exactly `width` digits. -/
def digits? (width : Nat) (text : List Char) : Option (Nat × List Char) :=
  let found := text.take width
  if found.length = width && found.all Char.isDigit then
    some (Text.numberOf found, text.drop width)
  else none

def mark? (expected : Char) : List Char → Option (List Char)
  | found :: rest => if found == expected then some rest else none
  | [] => none

def dateEnd? : List Char → Option (List Char)
  | 'T' :: rest | 't' :: rest | ' ' :: rest => some rest
  | _ => none

def magnitude? (text : List Char) : Option (Int × List Char) := do
  let (hours, rest) ← digits? 2 text
  let (minutes, rest) ← digits? 2 (← mark? ':' rest)
  if minutes < 60 then some (60 * hours + minutes, rest) else none

def offset? : List Char → Option (Int × List Char)
  | 'Z' :: rest | 'z' :: rest => some (0, rest)
  | '+' :: rest => magnitude? rest
  | '-' :: rest | '\u2212' :: rest => do
      let (magnitude, rest) ← magnitude? rest
      some (-magnitude, rest)
  | _ => none

end Strict

open Strict in
/-- Reads a whole timestamp of the exact shape. -/
def readStrict? (text : List Char) : Option Instant := do
  let (year, rest) ← digits? 4 text
  let (month, rest) ← digits? 2 (← mark? '-' rest)
  let (day, rest) ← digits? 2 (← mark? '-' rest)
  let (hour, rest) ← digits? 2 (← dateEnd? rest)
  let (minute, rest) ← digits? 2 (← mark? ':' rest)
  let (second, rest) ← digits? 2 (← mark? ':' rest)
  let (nanosecond, rest) ← (Relaxed.nanoseconds rest).toOption
  let (ahead, rest) ← offset? rest
  if rest.isEmpty && hour < 24 && minute < 60 && second ≤ 60 then
    (instantOf year month day hour minute second nanosecond ahead).toOption
  else none

end FleetPanel.Time
