/-
This file writes a JSON value as text without blanks.
-/

import FleetPanel.Json.Number

namespace FleetPanel.Json

/-- How a character is written between quotes: the control characters, the quote and the backslash
are escaped and all others stand for themselves. -/
def escaped (character : Char) : List Char :=
  match character with
  | '"' => ['\\', '"']
  | '\\' => ['\\', '\\']
  | '\x08' => ['\\', 'b']
  | '\x0c' => ['\\', 'f']
  | '\n' => ['\\', 'n']
  | '\r' => ['\\', 'r']
  | '\t' => ['\\', 't']
  | _ =>
      if character.toNat < 0x20 then
        ['\\', 'u', '0', '0', Nat.digitChar (character.toNat / 16),
          Nat.digitChar (character.toNat % 16)]
      else [character]

def quoted (text : String) : List Char :=
  '"' :: text.toList.flatMap escaped ++ ['"']

mutual

def characters : Json → List Char
  | null => "null".toList
  | boolean value => (if value then "true" else "false").toList
  | integer value => integerText value
  | float value => floatText value
  | string value => quoted value
  | array items => '[' :: itemCharacters items ++ [']']
  | object members => '\x7b' :: memberCharacters members ++ ['\x7d']

def itemCharacters : List Json → List Char
  | [] => []
  | [item] => characters item
  | item :: rest => characters item ++ ',' :: itemCharacters rest

def memberCharacters : List (String × Json) → List Char
  | [] => []
  | [(key, value)] => quoted key ++ ':' :: characters value
  | (key, value) :: rest => quoted key ++ ':' :: characters value ++ ',' :: memberCharacters rest

end

/-- The text of a value without blanks. -/
def compact (value : Json) : String :=
  String.ofList value.characters

end FleetPanel.Json
