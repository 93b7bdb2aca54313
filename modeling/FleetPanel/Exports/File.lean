/-
This file says what may stand where a file is expected, and what reading it as text gives.
-/

import FleetPanel.Text.Utf8

namespace FleetPanel.Exports

/-- What stands at a path. A file may be there and yet refuse to be read, and a path may lead to a
place that cannot even be looked at, so that nothing seems to be there. The system gives a reason
for both. -/
inductive Entry where
  | absent
  | hidden (reason : String)
  | directory
  | locked (reason : String)
  | octets (content : List UInt8)
deriving DecidableEq, Repr

namespace Entry

/-- A file that holds a text. -/
def ofText (text : String) : Entry :=
  .octets (Text.Utf8.encode text.toList)

/-- Something is seen at the path. -/
def isPresent : Entry → Bool
  | absent | hidden _ => false
  | directory | locked _ | octets _ => true

end Entry

/-- Why the text of a file cannot be had. -/
inductive ReadFault where
  | missing
  | isDirectory
  | refused (reason : String)
  | notUtf8
deriving DecidableEq, Repr

def ReadFault.message : ReadFault → String
  | missing => "No such file or directory (os error 2)"
  | isDirectory => "Is a directory (os error 21)"
  | refused reason => reason
  | notUtf8 => "stream did not contain valid UTF-8"

/-- The characters of a file. -/
def Entry.read : Entry → Except ReadFault (List Char)
  | absent => .error .missing
  | hidden reason | locked reason => .error (.refused reason)
  | directory => .error .isDirectory
  | octets content =>
      match Text.Utf8.decode? content with
      | some text => .ok text
      | none => .error .notUtf8

end FleetPanel.Exports
