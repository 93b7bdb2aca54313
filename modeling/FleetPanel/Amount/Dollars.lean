/-
This file shows an amount as US dollars: two decimal places of the shortest decimal, a half going
up, and thousands in groups of three.

The rounding works on the digits of the text. A carry may run through all of them and then adds one
in front.
-/

import FleetPanel.Binary64.Shortest

namespace FleetPanel.Amount

/-- The parts of a decimal text before and behind its point. -/
def splitPoint (text : List Char) : List Char × List Char :=
  let (whole, rest) := text.span (· != '.')
  (whole, rest.drop 1)

/-- Raises the last digit by one and carries to the left; `true` if a carry is left in front. -/
def increment : List Char → Bool × List Char
  | [] => (true, [])
  | digit :: rest =>
      match increment rest with
      | (false, rest) => (false, digit :: rest)
      | (true, rest) =>
          if digit = '9' then (true, '0' :: rest)
          else (false, Char.ofNat (digit.toNat + 1) :: rest)

/-- Rounds the digits before and behind a point to two places, a half going up. -/
def roundToCents (whole fraction : List Char) : List Char × List Char :=
  let digits := whole ++ [fraction.getD 0 '0', fraction.getD 1 '0']
  let rounded :=
    if (fraction[2]?).any ('5' ≤ ·) then
      match increment digits with
      | (true, raised) => '1' :: raised
      | (false, raised) => raised
    else digits
  rounded.splitAt (rounded.length - 2)

/-- Puts a comma before every third digit, counted from the right, except in front. -/
def groupThousands : List Char → List Char
  | [] => []
  | digit :: rest =>
      if rest.length % 3 = 0 && !rest.isEmpty then digit :: ',' :: groupThousands rest
      else digit :: groupThousands rest

def signText (negative : Bool) : List Char :=
  if negative then ['-'] else []

/-- The text of a finite magnitude: the shortest decimal, of two equally near ones the upper. -/
def magnitudeText (number : Binary64) : List Char :=
  (number.shortest .up).plain

def dollars (number : Binary64) : String :=
  if number.isNaN then "NaN"
  else if number.isInfinite then String.ofList (signText number.negative ++ ['$', '∞'])
  else
    let (whole, fraction) := splitPoint (magnitudeText number)
    let (whole, cents) := roundToCents whole fraction
    String.ofList (signText number.negative ++ '$' :: groupThousands whole ++ '.' :: cents)

end FleetPanel.Amount
