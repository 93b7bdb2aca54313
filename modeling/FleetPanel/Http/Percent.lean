/-
This file decodes percent-encoded octets.
-/

import FleetPanel.Text.Digits
import FleetPanel.Text.Utf8

namespace FleetPanel.Http

def hexadecimal? (octet : UInt8) : Option Nat :=
  Text.digitIn? 16 (Char.ofNat octet.toNat)

/-- Replaces a percent sign and two hexadecimal digits by the octet that they denote. A percent sign
without two digits stands for itself. -/
def decodePercent : List UInt8 → List UInt8
  | octet :: high :: low :: rest =>
      if octet == 0x25 then
        match hexadecimal? high, hexadecimal? low with
        | some high, some low => .ofNat (16 * high + low) :: decodePercent rest
        | _, _ => octet :: decodePercent (high :: low :: rest)
      else octet :: decodePercent (high :: low :: rest)
  | octets => octets

/-- The text that a percent-encoded text stands for, unless that is no text. -/
def decoded? (text : List Char) : Option (List Char) :=
  Text.Utf8.decode? (decodePercent (Text.Utf8.encode text))

end FleetPanel.Http
