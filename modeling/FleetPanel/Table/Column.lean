/-
This file holds table columns. A column shows one cell of every row.
-/

import FleetPanel.Amount.Dollars
import FleetPanel.Amount.Field
import FleetPanel.Json.Compact
import FleetPanel.Table.Cell
import FleetPanel.Text.Quoted
import FleetPanel.Time.Strict
import FleetPanel.Time.Text

namespace FleetPanel.Table

structure Column where
  key : String
  header : Cell
  cell : Row → Cell

/-- A column in a few words. -/
def Column.summary (column : Column) : String :=
  let key := Text.quoted column.key
  s!"ColumnDef \x7b key: {key} \x7d"

/-- A field as text: texts stand for themselves, and null and missing values are empty. -/
def fieldText (row : Row) (key : String) : String :=
  match row key with
  | some (.string text) => text
  | some .null | none => ""
  | some value => value.compact

/-- A field that holds a timestamp, to the minute; any other field as text. -/
def minuteText (row : Row) (key : String) : String :=
  let text := fieldText row key
  ((Time.readStrict? text.toList).map (·.minuteText)).getD text

namespace Column

/-- A column of plain text on the left. -/
def text (key header : String) : Column where
  key := key
  header := .left header
  cell row := .left (fieldText row key)

/-- A column of text that stands out. -/
def title (key header : String) : Column where
  key := key
  header := .left header
  cell row := (Cell.left (fieldText row key)).medium

def minute (key header : String) : Column where
  key := key
  header := .left header
  cell row := .left (minuteText row key)

/-- The row's amount in US dollars. -/
def amount : Column where
  key := "amount"
  header := .right "Amount"
  cell row := (Cell.right (Amount.dollars (Amount.ofField (row "amount")))).medium

/-- The used slots of the row's node, out of all its slots. -/
def slots : Column where
  key := "usedSlots"
  header := .right "Slots"
  cell row := .right (fieldText row "usedSlots" ++ "/" ++ fieldText row "capacitySlots")

end Column

def nodeColumns : List Column :=
  [.title "name" "Name", .text "status" "Status", .text "region" "Region", .slots,
    .minute "lastHeartbeatAt" "Last heartbeat", .text "nodeVersion" "Version"]

def instanceColumns : List Column :=
  [.title "displayName" "Name", .text "state" "State", .text "node" "Node",
    .text "region" "Region", .minute "createdAt" "Created", .amount]

end FleetPanel.Table
