/-
This file says what can be wrong with a JSON text, where, and in which words.
-/

import FleetPanel.Text.Utf8

namespace FleetPanel.Json

inductive Fault where
  | unfinishedValue
  | unfinishedList
  | unfinishedObject
  | unfinishedText
  | expectedValue
  | expectedWord
  | expectedColon
  | expectedCommaOrBracket
  | expectedCommaOrBrace
  | trailingComma
  | trailingCharacters
  | invalidNumber
  | numberOutOfRange
  | invalidEscape
  | brokenSurrogatePair
  | loneSurrogate
  | controlCharacter
  | keyNotText
  | tooDeep
deriving DecidableEq, Repr

def Fault.message : Fault → String
  | unfinishedValue => "EOF while parsing a value"
  | unfinishedList => "EOF while parsing a list"
  | unfinishedObject => "EOF while parsing an object"
  | unfinishedText => "EOF while parsing a string"
  | expectedValue => "expected value"
  | expectedWord => "expected ident"
  | expectedColon => "expected `:`"
  | expectedCommaOrBracket => "expected `,` or `]`"
  | expectedCommaOrBrace => "expected `,` or `\x7d`"
  | trailingComma => "trailing comma"
  | trailingCharacters => "trailing characters"
  | invalidNumber => "invalid number"
  | numberOutOfRange => "number out of range"
  | invalidEscape => "invalid escape"
  | brokenSurrogatePair => "unexpected end of hex escape"
  | loneSurrogate => "lone leading surrogate in hex escape"
  | controlCharacter => "control character (\\u0000-\\u001F) found while parsing a string"
  | keyNotText => "key must be a string"
  | tooDeep => "recursion limit exceeded"

/-- A line, counted from one, and the octets of it that were taken. -/
structure Position where
  line : Nat
  column : Nat
deriving DecidableEq, Repr

structure SyntaxError where
  fault : Fault
  position : Position
deriving DecidableEq, Repr

def SyntaxError.message (error : SyntaxError) : String :=
  let fault := error.fault.message
  let line := error.position.line
  let column := error.position.column
  s!"{fault} at line {line} column {column}"

/-- A fault met with `rest` still to read and `taken` octets of that already looked at. -/
structure Failure where
  fault : Fault
  rest : List Char
  taken : Nat
deriving DecidableEq, Repr

/-- The position after a number of octets of a text. -/
def positionAfter (octets : Nat) (text : List Char) : Position :=
  go octets 1 0 text
where
  go : Nat → Nat → Nat → List Char → Position
  | _, line, column, [] => ⟨line, column⟩
  | octets, line, column, character :: text =>
      if octets < character.utf8Size then ⟨line, column + octets⟩
      else if character == '\n' then go (octets - 1) (line + 1) 0 text
      else go (octets - character.utf8Size) line (column + character.utf8Size) text

/-- A failure as an error in the whole text. -/
def Failure.inText (failure : Failure) (text : List Char) : SyntaxError :=
  ⟨failure.fault,
    positionAfter (Text.Utf8.size text - Text.Utf8.size failure.rest + failure.taken) text⟩

end FleetPanel.Json
