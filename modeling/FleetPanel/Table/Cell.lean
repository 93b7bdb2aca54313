/-
This file holds table cells: a text and how it is to be drawn.
-/

import FleetPanel.Json.Basic

namespace FleetPanel.Table

inductive Align where
  | left
  | right
deriving DecidableEq, Repr

def Align.name : Align → String
  | left => "left"
  | right => "right"

inductive Weight where
  | normal
  | medium
deriving DecidableEq, Repr

def Weight.name : Weight → String
  | normal => "normal"
  | medium => "medium"

structure Cell where
  text : String
  align : Align
  weight : Weight
deriving DecidableEq, Repr

namespace Cell

def left (text : String) : Cell :=
  ⟨text, .left, .normal⟩

def right (text : String) : Cell :=
  ⟨text, .right, .normal⟩

def medium (cell : Cell) : Cell :=
  { cell with weight := .medium }

/-- The style classes of a cell, with a space between two. -/
def classes (cell : Cell) : String :=
  " ".intercalate <|
    (if cell.align = .right then ["text-right"] else []) ++
      (if cell.weight = .medium then ["font-medium"] else [])

def toJson (cell : Cell) : Json :=
  Json.ofMembers
    [("text", .string cell.text),
      ("align", .string cell.align.name),
      ("weight", .string cell.weight.name)]

end Cell

end FleetPanel.Table
