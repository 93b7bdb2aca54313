/-
This file lays rows out as a table.
-/

import FleetPanel.Table.Column

namespace FleetPanel.Table

/-- A table as it is shown: a header cell for every column and a list of cells for every row. -/
structure View where
  columns : List String
  headers : List Cell
  rows : List (List Cell)
deriving DecidableEq, Repr

namespace View

def render (columns : List Column) (rows : List Row) : View where
  columns := columns.map (·.key)
  headers := columns.map (·.header)
  rows := rows.map fun row => columns.map fun column => column.cell row

def toJson (view : View) : Json :=
  Json.ofMembers
    [("columns", .array (view.columns.map .string)),
      ("headers", .array (view.headers.map Cell.toJson)),
      ("rows", .array (view.rows.map fun row => .array (row.map Cell.toJson)))]

end View

end FleetPanel.Table
