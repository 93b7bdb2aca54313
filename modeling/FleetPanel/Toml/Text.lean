/-
This file reads the texts of TOML: blanks and comments, strings of four kinds, and keys.
-/

import FleetPanel.Text.Digits

namespace FleetPanel.Toml

def isSpace (character : Char) : Bool :=
  character == ' ' || character == '\t'

def dropSpaces (text : List Char) : List Char :=
  text.dropWhile isSpace

/-- A character that may stand in a comment or, unless it is a mark there, in a string: the tab and
every character that is no control character of ASCII. -/
def isPlain (character : Char) : Bool :=
  character == '\t' || (0x20 ≤ character.toNat && character.toNat != 0x7F)

def dropComment : List Char → List Char
  | '#' :: rest => rest.dropWhile isPlain
  | text => text

def newline? : List Char → Option (List Char)
  | '\n' :: rest => some rest
  | '\r' :: '\n' :: rest => some rest
  | _ => none

/-- The rest after blanks, a comment and the end of the line. The end of the text serves for one. -/
def lineEnd? (text : List Char) : Option (List Char) :=
  match dropComment (dropSpaces text) with
  | [] => some []
  | rest => newline? rest

/-- Drops blanks, line ends and comments between the items of an array. A comment without a line end
is not dropped whole, and no item begins with what is left of it. -/
def dropFill (isComment : Bool) : List Char → List Char
  | [] => []
  | '\n' :: rest => dropFill false rest
  | '\r' :: '\n' :: rest => dropFill false rest
  | character :: rest =>
      if isComment then
        if isPlain character then dropFill true rest else character :: rest
      else if isSpace character then dropFill false rest
      else if character == '#' then dropFill true rest
      else character :: rest

/-- The character of a code point given by hexadecimal digits. -/
def codePoint? (digits : List Char) : Option Char := do
  let code ← Text.numberIn? 16 digits
  if code < 0xD800 || (0xDFFF < code && code < 0x110000) then some (Char.ofNat code) else none

/-- A character after a backslash. -/
def escape? : List Char → Option (Char × List Char)
  | 'b' :: rest => some ('\x08', rest)
  | 'f' :: rest => some ('\x0c', rest)
  | 'n' :: rest => some ('\n', rest)
  | 'r' :: rest => some ('\r', rest)
  | 't' :: rest => some ('\t', rest)
  | '\\' :: rest => some ('\\', rest)
  | '"' :: rest => some ('"', rest)
  | 'u' :: rest =>
      if 4 ≤ rest.length then (codePoint? (rest.take 4)).map (·, rest.drop 4) else none
  | 'U' :: rest =>
      if 8 ≤ rest.length then (codePoint? (rest.take 8)).map (·, rest.drop 8) else none
  | _ => none

/-- Reads a string whose opening quote was taken; `sofar` holds its characters backwards. Every
round takes a character. -/
def readBasic? (sofar : List Char) : Nat → List Char → Option (String × List Char)
  | 0, _ => none
  | rounds + 1, text =>
      match text with
      | [] => none
      | '"' :: rest => some (String.ofList sofar.reverse, rest)
      | '\\' :: rest => do
          let (character, rest) ← escape? rest
          readBasic? (character :: sofar) rounds rest
      | character :: rest =>
          if isPlain character then readBasic? (character :: sofar) rounds rest else none

/-- Reads a string without escapes whose opening quote was taken. -/
def readLiteral? (text : List Char) : Option (String × List Char) :=
  let (inside, rest) := text.span fun character => isPlain character && character != '\''
  match rest with
  | '\'' :: rest => some (String.ofList inside, rest)
  | _ => none

/-- The rest after a backslash at the end of a line: all blanks and line ends are dropped. -/
def joinLine? (text : List Char) : Option (List Char) := do
  let rest ← newline? (dropSpaces text)
  return dropBreaks rest
where
  dropBreaks : List Char → List Char
    | ' ' :: rest => dropBreaks rest
    | '\t' :: rest => dropBreaks rest
    | '\n' :: rest => dropBreaks rest
    | '\r' :: '\n' :: rest => dropBreaks rest
    | rest => rest

/-- Reads a string of several lines whose opening quotes were taken. Three quotes close it, and up
to two more before them belong to it; `escapes` is false for a string without escapes. -/
def readLong? (quote : Char) (escapes : Bool) (sofar : List Char) :
    Nat → List Char → Option (String × List Char)
  | 0, _ => none
  | rounds + 1, text =>
      match newline? text with
      | some rest => readLong? quote escapes ('\n' :: sofar) rounds rest
      | none =>
          match text with
          | [] => none
          | character :: rest =>
              if character == quote then
                let run := (text.takeWhile (· == quote)).length
                let inside := List.replicate (if run < 3 then run else min (run - 3) 2) quote
                if run < 3 then readLong? quote escapes (inside ++ sofar) rounds (text.drop run)
                else some (String.ofList (inside ++ sofar).reverse, text.drop (inside.length + 3))
              else if character == '\\' && escapes then
                match joinLine? rest with
                | some rest => readLong? quote escapes sofar rounds rest
                | none => do
                    let (character, rest) ← escape? rest
                    readLong? quote escapes (character :: sofar) rounds rest
              else if isPlain character then
                readLong? quote escapes (character :: sofar) rounds rest
              else none

/-- A line end right after the opening quotes is no part of a string. -/
def readLongFrom? (quote : Char) (escapes : Bool) (text : List Char) :
    Option (String × List Char) :=
  let text := (newline? text).getD text
  readLong? quote escapes [] (text.length + 1) text

/-- Reads a string of any kind from its quotes on. -/
def readString? : List Char → Option (String × List Char)
  | '"' :: '"' :: '"' :: rest => readLongFrom? '"' true rest
  | '"' :: rest => readBasic? [] (rest.length + 1) rest
  | '\'' :: '\'' :: '\'' :: rest => readLongFrom? '\'' false rest
  | '\'' :: rest => readLiteral? rest
  | _ => none

def isBareKey (character : Char) : Bool :=
  character.isAlphanum || character == '_' || character == '-'

/-- One part of a key: a string of one line or bare characters. -/
def readKeyPart? (text : List Char) : Option (String × List Char) :=
  match text with
  | '"' :: rest => readBasic? [] (rest.length + 1) rest
  | '\'' :: rest => readLiteral? rest
  | _ =>
      let (name, rest) := text.span isBareKey
      if name.isEmpty then none else some (String.ofList name, rest)

/-- The number of parts that a key has to stay below. -/
def keyLimit : Nat := 80

/-- The parts of a key after the first, each behind a point. -/
def readKeyParts : Nat → List Char → List String × List Char
  | 0, text => ([], text)
  | rounds + 1, text =>
      match dropSpaces text with
      | '.' :: rest =>
          match readKeyPart? (dropSpaces rest) with
          | some (part, rest) =>
              let (parts, rest) := readKeyParts rounds rest
              (part :: parts, rest)
          | none => ([], text)
      | rest => ([], rest)

/-- Reads a key and the blanks around it: its last part and the parts before that. -/
def readKey? (text : List Char) : Option ((List String × String) × List Char) := do
  let (first, rest) ← readKeyPart? (dropSpaces text)
  let (others, rest) := readKeyParts rest.length rest
  let parts := first :: others
  if keyLimit ≤ parts.length then none
  return ((parts.dropLast, others.getLast?.getD first), rest)

end FleetPanel.Toml
