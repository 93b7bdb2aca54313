/-
This file lists the blank characters and drops them from the front of a text.
-/

namespace FleetPanel.Text

/-- A character with the Unicode property White_Space. -/
def isBlank (character : Char) : Bool :=
  let code := character.toNat
  (0x09 ≤ code && code ≤ 0x0D) || code == 0x20 || code == 0x85 || code == 0xA0 ||
    code == 0x1680 || (0x2000 ≤ code && code ≤ 0x200A) || code == 0x2028 || code == 0x2029 ||
    code == 0x202F || code == 0x205F || code == 0x3000

def dropBlanks (text : List Char) : List Char :=
  text.dropWhile isBlank

end FleetPanel.Text
