/-
This file reads JSON text. A reader takes the rest of the text and returns a value with what it
left, or a failure. Brackets may be nested 127 deep.
-/

import FleetPanel.Json.Fault
import FleetPanel.Json.Number

namespace FleetPanel.Json

abbrev Outcome := Except Failure

/-- Takes a value from the front of a text and leaves the rest. -/
abbrev Reader (Value : Type) : Type := List Char → Outcome (Value × List Char)

/-- Fails before the next character. -/
def failAt {α : Type} (fault : Fault) (rest : List Char) : Outcome α :=
  .error ⟨fault, rest, 0⟩

/-- Fails with the next octet taken, if there is one. -/
def failPast {α : Type} (fault : Fault) (rest : List Char) : Outcome α :=
  .error ⟨fault, rest, if rest.isEmpty then 0 else 1⟩

def isSpace (character : Char) : Bool :=
  character == ' ' || character == '\n' || character == '\t' || character == '\r'

def dropSpace (text : List Char) : List Char :=
  text.dropWhile isSpace

/-- Reads the letters of a word whose first letter was taken. -/
def readWord (value : Json) : List Char → Reader Json
  | [], rest => .ok (value, rest)
  | _ :: _, [] => failAt .unfinishedValue []
  | expected :: word, letter :: rest =>
      if letter == expected then readWord value word rest
      else failPast .expectedWord (letter :: rest)

/-- The code unit of four hexadecimal digits. -/
def codeUnit? (digits : List Char) : Option Nat :=
  Text.numberIn? 16 digits

/-- Fails on four characters that are no code unit. They are taken as four octets. -/
def failUnit {α : Type} (rest : List Char) : Outcome α :=
  if Text.Utf8.size rest < 4 then failAt .unfinishedText []
  else .error ⟨.invalidEscape, rest, 4⟩

def escapedCharacter? : Char → Option Char
  | '"' => some '"'
  | '\\' => some '\\'
  | '/' => some '/'
  | 'b' => some '\x08'
  | 'f' => some '\x0c'
  | 'n' => some '\n'
  | 'r' => some '\r'
  | 't' => some '\t'
  | _ => none

def isLeading (unit : Nat) : Bool :=
  0xD800 ≤ unit && unit < 0xDC00

def isTrailing (unit : Nat) : Bool :=
  0xDC00 ≤ unit && unit < 0xE000

/-- Reads a text whose opening quote was taken; `sofar` holds its characters backwards. -/
def readText (sofar : List Char) : Reader String
  | [] => failAt .unfinishedText []
  | '"' :: rest => .ok (String.ofList sofar.reverse, rest)
  | '\\' :: 'u' :: a :: b :: c :: d :: rest =>
      match codeUnit? [a, b, c, d] with
      | none => failUnit (a :: b :: c :: d :: rest)
      | some unit =>
          if isTrailing unit then failAt .loneSurrogate rest
          else if isLeading unit then
            match rest with
            | '\\' :: 'u' :: a :: b :: c :: d :: rest =>
                match codeUnit? [a, b, c, d] with
                | none => failUnit (a :: b :: c :: d :: rest)
                | some next =>
                    if isTrailing next then
                      let point := 0x10000 + 0x400 * (unit - 0xD800) + (next - 0xDC00)
                      readText (Char.ofNat point :: sofar) rest
                    else failAt .loneSurrogate rest
            | '\\' :: 'u' :: rest => failUnit rest
            | ['\\'] => failAt .unfinishedText []
            | '\\' :: rest => failPast .brokenSurrogatePair rest
            | [] => failAt .unfinishedText []
            | rest => failPast .brokenSurrogatePair rest
          else readText (Char.ofNat unit :: sofar) rest
  | '\\' :: 'u' :: rest => failUnit rest
  | '\\' :: [] => failAt .unfinishedText []
  | '\\' :: mark :: rest =>
      match escapedCharacter? mark with
      | some character => readText (character :: sofar) rest
      | none => failPast .invalidEscape (mark :: rest)
  | character :: rest =>
      if character.toNat < 0x20 then failPast .controlCharacter (character :: rest)
      else readText (character :: sofar) rest

/-- A quote that is not escaped ends the text. -/
theorem readTextClosed (sofar rest : List Char) :
    readText sofar ('"' :: rest) = .ok (String.ofList sofar.reverse, rest) := by
  rw [readText]

/-- The greatest exponent that is read to its end. -/
def greatestExponent : Nat := 2147483647

/-- Reads exponent digits. The flag says that they passed the greatest exponent, in which case the
digits after that point are left. -/
def readExponentDigits (sofar : Nat) : List Char → (Nat × Bool) × List Char
  | digit :: rest =>
      if digit.isDigit then
        let next := 10 * sofar + (digit.toNat - '0'.toNat)
        if greatestExponent < next then ((next, true), rest) else readExponentDigits next rest
      else ((sofar, false), digit :: rest)
  | [] => ((sofar, false), [])

/-- A significand and an exponent as a float. -/
def readScaled (negative : Bool) (significand : Nat) (exponent : Int) (rest : List Char) :
    Outcome (Json × List Char) :=
  match scale? significand exponent with
  | some number => .ok (float (if negative then number.negate else number), rest)
  | none => failAt .numberOutOfRange rest

/-- Reads an exponent whose mark was taken. -/
def readExponent (negative : Bool) (significand : Nat) (exponent : Int) (text : List Char) :
    Outcome (Json × List Char) :=
  let (down, digits) :=
    match text with
    | '+' :: rest => (false, rest)
    | '-' :: rest => (true, rest)
    | rest => (false, rest)
  match digits with
  | [] => failAt .unfinishedValue []
  | digit :: _ =>
      if digit.isDigit then
        match readExponentDigits 0 digits with
        | ((places, false), rest) =>
            readScaled negative significand (if down then exponent - places else exponent + places)
              rest
        | ((_, true), rest) =>
            if significand != 0 && !down then failAt .numberOutOfRange rest
            else .ok (float (.zero negative), rest.dropWhile Char.isDigit)
      else failPast .invalidNumber digits

def isExponentMark (character : Char) : Bool :=
  character == 'e' || character == 'E'

/-- Reads a fraction whose point was taken. -/
def readFraction (negative : Bool) (significand : Nat) (exponent : Int) (text : List Char) :
    Outcome (Json × List Char) :=
  let (digits, rest) := text.span Char.isDigit
  if digits.isEmpty then
    failPast (if rest.isEmpty then .unfinishedValue else .invalidNumber) rest
  else
    let (significand, left) := gather significand digits
    let exponent := exponent - (digits.length - left : Nat)
    match rest with
    | mark :: after =>
        if isExponentMark mark then readExponent negative significand exponent after
        else readScaled negative significand exponent rest
    | [] => readScaled negative significand exponent rest

/-- The value of whole digits that fit 64 bits. Minus zero and integers below -2 ^ 63 are floats. -/
def wholeValue (negative : Bool) (number : Nat) : Json :=
  if !negative then integer number
  else if number = 0 || UInt64.size / 2 < number then float (.ofRatio true number 1)
  else integer (-number)

/-- Reads what follows the whole digits of a number. -/
def readAfterWhole (negative : Bool) (digits : List Char) (rest : List Char) :
    Outcome (Json × List Char) :=
  let (significand, left) := gather 0 digits
  match rest with
  | '.' :: after => readFraction negative significand left after
  | mark :: after =>
      if isExponentMark mark then readExponent negative significand left after
      else finish significand left
  | [] => finish significand left
where
  finish (significand left : Nat) : Outcome (Json × List Char) :=
    if left = 0 then .ok (wholeValue negative significand, rest)
    else readScaled negative significand left rest

/-- Reads a number whose sign was taken. -/
def readNumber (negative : Bool) (text : List Char) : Outcome (Json × List Char) :=
  match text with
  | [] => failAt .unfinishedValue []
  | '0' :: rest =>
      if (rest.head?.map Char.isDigit).getD false then failPast .invalidNumber rest
      else readAfterWhole negative ['0'] rest
  | first :: _ =>
      if first.isDigit then
        let (digits, rest) := text.span Char.isDigit
        readAfterWhole negative digits rest
      else failPast .invalidNumber text

/-- Reads the items of an array from the first of them on; `sofar` holds items backwards. Each item
takes a character, so rounds as many as the characters of the text are enough. -/
def readItems (item : Reader Json) (sofar : List Json) : Nat → Reader Json
  | 0, text => failAt .unfinishedList text
  | rounds + 1, text => do
      let (value, rest) ← item text
      match dropSpace rest with
      | ']' :: rest => .ok (array (value :: sofar).reverse, rest)
      | ',' :: rest =>
          match dropSpace rest with
          | [] => failAt .unfinishedValue []
          | ']' :: rest => failPast .trailingComma (']' :: rest)
          | next => readItems item (value :: sofar) rounds next
      | [] => failAt .unfinishedList []
      | rest => failPast .expectedCommaOrBracket rest

/-- Reads an array whose bracket was taken. -/
def readArray (item : Reader Json) (rounds : Nat) (text : List Char) :
    Outcome (Json × List Char) :=
  match dropSpace text with
  | [] => failAt .unfinishedList []
  | ']' :: rest => .ok (array [], rest)
  | first => readItems item [] rounds first

/-- Reads a member from its opening quote on. -/
def readMember (item : Reader Json) (text : List Char) :
    Outcome ((String × Json) × List Char) := do
  let (key, rest) ← readText [] (text.drop 1)
  match dropSpace rest with
  | ':' :: rest =>
      let (value, rest) ← item rest
      .ok ((key, value), rest)
  | [] => failAt .unfinishedObject []
  | rest => failPast .expectedColon rest

/-- Reads the members of an object from the first of them on; `sofar` holds members backwards. -/
def readMembers (item : Reader Json) (sofar : List (String × Json)) : Nat → Reader Json
  | 0, text => failAt .unfinishedObject text
  | rounds + 1, text => do
      let (member, rest) ← readMember item text
      match dropSpace rest with
      | '\x7d' :: rest => .ok (ofMembers (member :: sofar).reverse, rest)
      | ',' :: rest =>
          match dropSpace rest with
          | [] => failAt .unfinishedValue []
          | '\x7d' :: rest => failPast .trailingComma ('\x7d' :: rest)
          | '"' :: rest => readMembers item (member :: sofar) rounds ('"' :: rest)
          | rest => failPast .keyNotText rest
      | [] => failAt .unfinishedObject []
      | rest => failPast .expectedCommaOrBrace rest

/-- Reads an object whose brace was taken. -/
def readObject (item : Reader Json) (rounds : Nat) (text : List Char) :
    Outcome (Json × List Char) :=
  match dropSpace text with
  | [] => failAt .unfinishedObject []
  | '\x7d' :: rest => .ok (object [], rest)
  | '"' :: rest => readMembers item [] rounds ('"' :: rest)
  | rest => failPast .keyNotText rest

/-- Reads a value, given how to read what a bracket and a brace open. -/
def readWith (afterBracket afterBrace : Reader Json) (text : List Char) :
    Outcome (Json × List Char) :=
  match dropSpace text with
  | [] => failAt .unfinishedValue []
  | 'n' :: rest => readWord null ['u', 'l', 'l'] rest
  | 't' :: rest => readWord (boolean true) ['r', 'u', 'e'] rest
  | 'f' :: rest => readWord (boolean false) ['a', 'l', 's', 'e'] rest
  | '-' :: rest => readNumber true rest
  | '"' :: rest => (readText [] rest).map fun (value, rest) => (string value, rest)
  | '[' :: rest => afterBracket rest
  | '\x7b' :: rest => afterBrace rest
  | first :: rest =>
      if first.isDigit then readNumber false (first :: rest)
      else failPast .expectedValue (first :: rest)

/-- Reads a value in which brackets nest no deeper than `depth` and none holds more than `rounds`
values. -/
def readValue (rounds : Nat) : Nat → Reader Json
  | 0 => readWith (failAt .tooDeep) (failAt .tooDeep)
  | depth + 1 =>
      let item := readValue rounds depth
      readWith (readArray item rounds) (readObject item rounds)

def deepest : Nat := 127

/-- The value of a whole text, whose characters are more than the values of any of its brackets. -/
def ofCharacters (text : List Char) : Except SyntaxError Json :=
  let outcome : Outcome Json := do
    let (value, rest) ← readValue text.length deepest text
    match dropSpace rest with
    | [] => .ok value
    | rest => failPast .trailingCharacters rest
  outcome.mapError fun failure => failure.inText text

def ofText (text : String) : Except SyntaxError Json :=
  ofCharacters text.toList

end FleetPanel.Json
