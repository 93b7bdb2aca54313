/-
This file reads TOML documents. Arrays and inline tables may be nested 79 deep.
-/

import FleetPanel.Toml.Moment
import FleetPanel.Toml.Number
import FleetPanel.Toml.Text

namespace FleetPanel.Toml

abbrev ItemReader := List Char → Option (Item × List Char)

/-- Reads the items of an array whose bracket was taken. Every round takes an item. -/
def readItems? (item : ItemReader) (sofar : List Item) :
    Nat → List Char → Option (Item × List Char)
  | 0, _ => none
  | rounds + 1, text =>
      match dropFill false text with
      | ']' :: rest => some (.array sofar.reverse, rest)
      | text => do
          let (value, rest) ← item text
          match dropFill false rest with
          | ',' :: rest => readItems? item (value :: sofar) rounds rest
          | ']' :: rest => some (.array (value :: sofar).reverse, rest)
          | _ => none

/-- Reads a key, the equals sign and the item that the key stands for. -/
def readPair? (item : ItemReader) (text : List Char) :
    Option (((List String × String) × Item) × List Char) := do
  let (key, rest) ← readKey? text
  let (value, rest) ← item (dropSpaces (← mark? '=' rest))
  return ((key, value), rest)

/-- Reads the pairs of an inline table from the first of them on. -/
def readPairs? (item : ItemReader) (table : Table) :
    Nat → List Char → Option (Item × List Char)
  | 0, _ => none
  | rounds + 1, text => do
      let (((path, key), value), rest) ← readPair? item text
      let table ← table.addDotted? path key value
      match dropSpaces rest with
      | ',' :: rest => readPairs? item table rounds rest
      | '\x7d' :: rest => some (.closedTable table.members, rest)
      | _ => none

/-- Reads an inline table whose brace was taken. -/
def readInlineTable? (item : ItemReader) (text : List Char) : Option (Item × List Char) :=
  match dropSpaces text with
  | '\x7d' :: rest => some (.closedTable [], rest)
  | first => readPairs? item .root first.length first

def readTruth? : List Char → Option (Item × List Char)
  | 't' :: 'r' :: 'u' :: 'e' :: rest => some (.truth true, rest)
  | 'f' :: 'a' :: 'l' :: 's' :: 'e' :: rest => some (.truth false, rest)
  | _ => none

def readScalar? (text : List Char) : Option (Item × List Char) :=
  ((readString? text).map fun (value, rest) => (.text value, rest)) <|>
    readMoment? text <|> readFloat? text <|> readInteger? text <|> readTruth? text

/-- Reads an item in which brackets and braces nest less deep than `depth`. -/
def readItem? : Nat → ItemReader
  | 0, _ => none
  | 1, text => readScalar? text
  | depth + 2, '[' :: rest => readItems? (readItem? (depth + 1)) [] (rest.length + 1) rest
  | depth + 2, '\x7b' :: rest => readInlineTable? (readItem? (depth + 1)) rest
  | _ + 2, text => readScalar? text

def depthLimit : Nat := 80

/-- Reads a header between its brackets and the end of its line. -/
def readHeader? (isElement : Bool) (text : List Char) :
    Option ((List String × String) × List Char) := do
  let (key, rest) ← readKey? text
  let rest ← mark? ']' rest
  let rest ← if isElement then mark? ']' rest else some rest
  return (key, ← lineEnd? rest)

/-- Reads the lines of a document, given the table of the lines before and the path of the header
that they stand under. Every round takes a line. -/
def readLines? (root : Table) (under : List String) : Nat → List Char → Option Table
  | 0, _ => none
  | rounds + 1, text =>
      match dropSpaces text with
      | [] => some root
      | '[' :: '[' :: rest => do
          let ((path, key), rest) ← readHeader? true rest
          let root ← root.change? false (Table.extend? key) path
          readLines? root (path ++ [key]) rounds rest
      | '[' :: rest => do
          let ((path, key), rest) ← readHeader? false rest
          let root ← root.change? false (Table.define? key) path
          readLines? root (path ++ [key]) rounds rest
      | text =>
          match lineEnd? text with
          | some rest => readLines? root under rounds rest
          | none => do
              let (((path, key), value), rest) ← readPair? (readItem? depthLimit) text
              let root ← root.change? false (Table.addDotted? path key value) under
              readLines? root under rounds (← lineEnd? rest)

/-- The byte order mark that may stand before a document. -/
def byteOrderMark : Char := '\uFEFF'

/-- The table of a whole document. -/
def ofCharacters? (text : List Char) : Option Table :=
  let text := if text.head? == some byteOrderMark then text.drop 1 else text
  readLines? .root [] (text.length + 1) text

end FleetPanel.Toml
