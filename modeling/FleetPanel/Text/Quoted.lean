/-
This file quotes a text so that every character of it can be seen.
-/

import FleetPanel.Text.Hidden

namespace FleetPanel.Text

/-- How a character is shown between quotes: hidden characters by the hexadecimal number of their
code point in braces. -/
def shown (character : Char) : List Char :=
  match character with
  | '"' => ['\\', '"']
  | '\\' => ['\\', '\\']
  | '\n' => ['\\', 'n']
  | '\r' => ['\\', 'r']
  | '\t' => ['\\', 't']
  | '\x00' => ['\\', '0']
  | _ =>
      if isHidden character then
        '\\' :: 'u' :: '\x7b' :: Nat.toDigits 16 character.toNat ++ ['\x7d']
      else [character]

/-- A text between quotes. -/
def quoted (text : String) : String :=
  String.ofList ('"' :: text.toList.flatMap shown ++ ['"'])

end FleetPanel.Text
