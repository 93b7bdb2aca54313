/-
This file joins file paths, those that are texts and those that are raw.
-/

import FleetPanel.Text.Raw

namespace FleetPanel.Path

section Letters

variable {Letter : Type} [BEq Letter]

/-- An absolute path begins at the root. -/
def isRooted (slash : Letter) (path : List Letter) : Bool :=
  [slash].isPrefixOf path

/-- A path inside another. An absolute path replaces the one before it. -/
def joined (slash : Letter) (base name : List Letter) : List Letter :=
  if isRooted slash name || base.isEmpty then name
  else if [slash].isSuffixOf base then base ++ name
  else base ++ slash :: name

end Letters

def join (base name : String) : String :=
  String.ofList (joined '/' base.toList name.toList)

/-- A slash as an octet. -/
def slash : UInt8 := 0x2F

def isAbsolute (path : RawText) : Bool :=
  isRooted slash path.octets

/-- A raw path inside another. -/
def joinRaw (base : RawText) (name : String) : RawText :=
  ⟨joined slash base.octets (RawText.ofText name).octets⟩

end FleetPanel.Path
