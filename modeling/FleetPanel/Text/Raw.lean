/-
This file holds texts as the system hands them out: octets that need not be UTF-8.
-/

import FleetPanel.Text.Utf8

namespace FleetPanel

/-- A text of the system, such as a path or what a variable is set to. -/
structure RawText where
  octets : List UInt8
deriving DecidableEq, Repr

namespace RawText

def ofText (text : String) : RawText :=
  ⟨Text.Utf8.encode text.toList⟩

/-- The text that the octets spell, if they are UTF-8. -/
def text? (raw : RawText) : Option String :=
  (Text.Utf8.decode? raw.octets).map String.ofList

/-- The text as it is shown, with a replacement for each broken sequence. -/
def shown (raw : RawText) : String :=
  String.ofList (Text.Utf8.decodeLossy raw.octets)

def isEmpty (raw : RawText) : Bool :=
  raw.octets.isEmpty

end RawText

end FleetPanel
