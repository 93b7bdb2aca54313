/-
This file writes instants: in full, with as many fraction digits as they need, and to the minute.
-/

import FleetPanel.Text.Digits
import FleetPanel.Time.Instant

namespace FleetPanel.Time

/-- A year in four digits; a year outside 0000 to 9999 has a sign. -/
def yearText (year : Int) : List Char :=
  if 0 ≤ year && year ≤ 9999 then Text.padded 4 year.natAbs
  else (if year < 0 then '-' else '+') :: Text.padded 4 year.natAbs

def Date.text (date : Date) : List Char :=
  yearText date.year ++ '-' :: Text.padded 2 date.month ++ '-' :: Text.padded 2 date.day

/-- No digits, or the fewest of three, six and nine that lose nothing. -/
def fractionText (nanosecond : Nat) : List Char :=
  if nanosecond = 0 then []
  else if nanosecond % 1000000 = 0 then '.' :: Text.padded 3 (nanosecond / 1000000)
  else if nanosecond % 1000 = 0 then '.' :: Text.padded 6 (nanosecond / 1000)
  else '.' :: Text.padded 9 nanosecond

def Clock.minuteText (clock : Clock) : List Char :=
  Text.padded 2 clock.hour ++ ':' :: Text.padded 2 clock.minute

def Clock.text (clock : Clock) : List Char :=
  clock.minuteText ++ ':' :: Text.padded 2 clock.second ++ fractionText clock.nanosecond

namespace Instant

/-- How the offset of UTC is written. -/
inductive Zone where
  | letter
  | digits
deriving DecidableEq, Repr

def Zone.text : Zone → List Char
  | letter => ['Z']
  | digits => ['+', '0', '0', ':', '0', '0']

/-- Date, time and offset in full. -/
def text (zone : Zone) (instant : Instant) : String :=
  String.ofList (instant.date.text ++ 'T' :: instant.clock.text ++ zone.text)

/-- Date and time truncated to the minute. -/
def minuteText (instant : Instant) : String :=
  String.ofList (instant.date.text ++ ' ' :: instant.clock.minuteText ++ " UTC".toList)

end Instant

end FleetPanel.Time
