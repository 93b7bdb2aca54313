/-
This file tells the media type of a file by the ending of its name.
-/

import FleetPanel.Http.MediaKinds
import FleetPanel.Http.Target

namespace FleetPanel.Http

def unknownMediaType : String := "application/octet-stream"

/-- What follows the last point of a name, unless the name begins with that point. -/
def ending? (name : String) : Option String :=
  match (splitOn '.' name.toList).reverse with
  | last :: before :: others =>
      if others.isEmpty && before.isEmpty then none else some (String.ofList last)
  | _ => none

/-- A character without its case. The characters outside of ASCII are those that come to letters of
ASCII: the long and the sharp s, the sign of the kelvin, and the ligatures of Latin letters. -/
def foldCase (character : Char) : List Char :=
  match character with
  | '\u017F' => ['s']
  | '\u212A' => ['k']
  | '\u00DF' | '\u1E9E' => ['s', 's']
  | '\uFB00' => ['f', 'f']
  | '\uFB01' => ['f', 'i']
  | '\uFB02' => ['f', 'l']
  | '\uFB03' => ['f', 'f', 'i']
  | '\uFB04' => ['f', 'f', 'l']
  | '\uFB05' | '\uFB06' => ['s', 't']
  | _ => [character.toLower]

/-- The media type that an ending in lower case stands for. -/
def mediaTypeOfEnding? (ending : String) : Option String :=
  mediaKinds.findSome? fun (kind, types) =>
    (types.find? (·.2.contains ending)).map (kind ++ "/" ++ ·.1)

def mediaType (name : String) : String :=
  ((ending? name).bind fun ending =>
    mediaTypeOfEnding? (String.ofList (ending.toList.flatMap foldCase))).getD unknownMediaType

end FleetPanel.Http
