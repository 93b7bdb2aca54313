/-
This file scans the front of a text for a number and has the literal that it finds read.

The scan looks at the octets of the text and cuts the text at positions between them. A text is
never cut inside a character; a scan without a finding would mark such a cut.
-/

import FleetPanel.Binary64.Literal
import FleetPanel.Text.Blank
import FleetPanel.Text.Utf8

namespace FleetPanel.Amount

open Text

/-- What a text holds at its front: no number, the word for infinity, or a number as a literal. -/
inductive Finding where
  | nothing
  | infinite (negative : Bool)
  | literal (text : List Char)
deriving DecidableEq, Repr

/-- A literal that cannot be read counts as no number. -/
def Finding.value : Finding → Binary64
  | nothing => .nan
  | infinite negative => .infinity negative
  | literal text => (Binary64.ofLiteral? text).getD .nan

namespace Scan

def isDigit (octet : UInt8) : Bool :=
  '0'.toUInt8 ≤ octet && octet ≤ '9'.toUInt8

/-- One of some ASCII characters stands at a position. -/
def holds (octets : List UInt8) (position : Nat) (characters : List Char) : Bool :=
  (octets[position]?).any fun octet => characters.any fun character => character.toUInt8 == octet

/-- The position behind the digits that begin at a position. -/
def pastDigits (octets : List UInt8) (start : Nat) : Nat :=
  start + ((octets.drop start).takeWhile isDigit).length

/-- The sign and the position behind it. -/
def sign (octets : List UInt8) : Bool × Nat :=
  if holds octets 0 ['-'] then (true, 1)
  else if holds octets 0 ['+'] then (false, 1)
  else (false, 0)

/-- The digits behind a point and the position behind them. A point alone is not part of a
number. -/
def fraction? (text whole : List Char) (position : Nat) : Option (List Char × Nat) :=
  let octets := Utf8.encode text
  if holds octets position ['.'] then
    let start := position + 1
    let stop := pastDigits octets start
    if !whole.isEmpty || start < stop then
      (Utf8.slice? text start stop).map fun digits => (digits, stop)
    else some ([], position)
  else some ([], position)

/-- The exponent with its mark. It counts only with digits of its own. -/
def exponent? (text : List Char) (position : Nat) : Option (List Char) :=
  let octets := Utf8.encode text
  if holds octets position ['e', 'E'] then
    let behind := position + 1
    let start := if holds octets behind ['+', '-'] then behind + 1 else behind
    let stop := pastDigits octets start
    if start < stop then Utf8.slice? text position stop else some []
  else some []

/-- A number as a literal with digits on both sides of a point. -/
def literal (negative : Bool) (whole fraction exponent : List Char) : List Char :=
  (if negative then ['-'] else []) ++ (if whole.isEmpty then ['0'] else whole) ++
    '.' :: (if fraction.isEmpty then ['0'] else fraction) ++ exponent

def infinityWord : List Char := "Infinity".toList

/-- The longest number at the front of a text; `none` if the text were cut inside a character. -/
def find? (text : List Char) : Option Finding :=
  let octets := Utf8.encode text
  let (negative, start) := sign octets
  (Utf8.slice? text start octets.length).bind fun unsigned =>
    if infinityWord.isPrefixOf unsigned then some (.infinite negative)
    else
      let stop := pastDigits octets start
      (Utf8.slice? text start stop).bind fun whole =>
        (fraction? text whole stop).bind fun (fraction, position) =>
          if whole.isEmpty && fraction.isEmpty then some .nothing
          else (exponent? text position).map fun exponent =>
            .literal (literal negative whole fraction exponent)

end Scan

/-- A character that may stand before a number: a blank or the byte order mark. -/
def isLeadingBlank (character : Char) : Bool :=
  isBlank character || character == '\uFEFF'

/-- The number at the front of a text, NaN if there is none. -/
def ofText (text : String) : Binary64 :=
  ((Scan.find? (text.toList.dropWhile isLeadingBlank)).map Finding.value).getD .nan

end FleetPanel.Amount
