/-
This file reads a whole text as a number. A literal is an optional sign and then digits with an
optional point and exponent, or a word for infinity or for no number.
-/

import FleetPanel.Binary64.Nearest
import FleetPanel.Text.Digits

namespace FleetPanel.Binary64

namespace Literal

def sign : List Char → Bool × List Char
  | '-' :: rest => (true, rest)
  | '+' :: rest => (false, rest)
  | text => (false, text)

/-- The digits behind a point, if there is one. -/
def fraction : List Char → List Char × List Char
  | '.' :: rest => rest.span Char.isDigit
  | text => ([], text)

/-- What follows the digits: nothing, or a mark and at least one digit of an exponent. -/
def exponent? : List Char → Option Int
  | [] => some 0
  | mark :: rest =>
      let (negative, digits) := sign rest
      if (mark == 'e' || mark == 'E') && !digits.isEmpty && digits.all Char.isDigit then
        let magnitude : Int := Text.numberOf digits
        some (if negative then -magnitude else magnitude)
      else none

/-- A word in place of digits, in small or capital letters. -/
def word? (negative : Bool) (text : List Char) : Option Binary64 :=
  let word := String.ofList (text.map Char.toLower)
  if word = "inf" || word = "infinity" then some (.infinity negative)
  else if word = "nan" then some { nan with negative }
  else none

end Literal

/-- The number nearest to a literal. -/
def ofLiteral? (text : List Char) : Option Binary64 :=
  let (negative, unsigned) := Literal.sign text
  let (whole, rest) := unsigned.span Char.isDigit
  let (fraction, rest) := Literal.fraction rest
  if whole.isEmpty && fraction.isEmpty then Literal.word? negative unsigned
  else
    (Literal.exponent? rest).map fun exponent =>
      ofDecimal negative (Text.numberOf (whole ++ fraction)) (exponent - fraction.length)

end FleetPanel.Binary64
