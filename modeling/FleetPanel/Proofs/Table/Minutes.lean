/-
This file shows that a cell with a timestamp holds the instant that the text of the record denotes,
in UTC and to the minute, however that text was spelled.
-/

import FleetPanel.Proofs.Fleet.Fields
import FleetPanel.Proofs.Time.Exact
import FleetPanel.Table.View
import FleetPanel.Table.Rows

namespace FleetPanel.Table

open Fleet Time
open Text (padded)

variable {Record : Type} {row : Row} {key header text : String} {instant : Instant}

/-- A year that is written with four digits and no sign. -/
def IsPlainYear (year : Int) : Prop :=
  0 ≤ year ∧ year ≤ 9999

instance (year : Int) : Decidable (IsPlainYear year) :=
  inferInstanceAs (Decidable (_ ∧ _))

/-- The date and time of an instant in UTC, down to the minute. -/
def utcMinute (instant : Instant) : String :=
  String.ofList (padded 4 instant.date.year.natAbs ++ '-' :: padded 2 instant.date.month ++
    '-' :: padded 2 instant.date.day ++ ' ' :: padded 2 instant.clock.hour ++
    ':' :: padded 2 instant.clock.minute ++ " UTC".toList)

/-- The cell of a row in the column with a key. -/
def cellAt (columns : List Column) (key : String) (row : Row) : Option Cell :=
  (columns.find? fun column => column.key == key).map fun column => column.cell row

/-- A column shows the instant that the text of a record denotes, so records whose texts denote one
instant have one cell. An instant whose year has no four digits is shown as the row has it. -/
structure ShowsInstant (columns : List Column) (keys : List String) (key : String)
    (ofJson : Json → Decoded Record) (rowOf : Record → Row) : Prop where
  shown : ∀ json record, ofJson json = .ok record → ∃ text instant,
    fieldsOf keys json key = some (.string text) ∧ Denotes text.toList instant ∧
      rowOf record key = some (.string (instant.text .digits)) ∧
      cellAt columns key (rowOf record) =
        some (.left (if IsPlainYear instant.date.year then utcMinute instant
          else instant.text .digits))
  alike : ∀ json other record otherRecord text otherText instant,
    ofJson json = .ok record → ofJson other = .ok otherRecord →
    fieldsOf keys json key = some (.string text) →
    fieldsOf keys other key = some (.string otherText) →
    Denotes text.toList instant → Denotes otherText.toList instant →
      cellAt columns key (rowOf record) = cellAt columns key (rowOf otherRecord)

/-- A column shows a text to the minute if it is a timestamp of the strict form, and any other text
as it is. Texts of the strict form that denote one instant have one cell. -/
structure ShowsText (columns : List Column) (key : String) : Prop where
  unread : ∀ (json : Json) text, json.row key = some (.string text) →
    readStrict? text.toList = none → cellAt columns key json.row = some (.left text)
  read : ∀ (json : Json) text instant, json.row key = some (.string text) →
    readStrict? text.toList = some instant →
      Denotes text.toList instant ∧ cellAt columns key json.row = some (.left instant.minuteText)
  alike : ∀ (json other : Json) text otherText instant, json.row key = some (.string text) →
    other.row key = some (.string otherText) → (readStrict? text.toList).isSome →
    (readStrict? otherText.toList).isSome → Denotes text.toList instant →
    Denotes otherText.toList instant →
      cellAt columns key json.row = cellAt columns key other.row

theorem utcMinuteOfPlain (plain : IsPlainYear instant.date.year) :
    instant.minuteText = utcMinute instant := by
  have plainYear : yearText instant.date.year = padded 4 instant.date.year.natAbs :=
    if_pos (by simpa [IsPlainYear] using plain)
  simp only [Instant.minuteText, Date.text, Clock.minuteText, plainYear, utcMinute,
    List.append_assoc, List.cons_append]

/-- A field that holds the text of an instant is shown to the minute if it can be read strictly. -/
theorem minuteTextOfInstant (zone : Instant.Zone)
    (held : row key = some (.string (instant.text zone))) :
    minuteText row key =
      if IsPlainYear instant.date.year then utcMinute instant else instant.text zone := by
  simp only [minuteText, fieldText, held]
  split
  · case isTrue plain =>
    rw [readStrictText zone plain.1 plain.2]
    exact utcMinuteOfPlain plain
  · case isFalse outside =>
    rw [readStrictSigned zone outside]
    rfl

/-- A column of minutes over a field that every record reads as a timestamp and shows as one. -/
theorem showsInstantOfField {columns : List Column} {keys : List String}
    {ofJson : Json → Decoded Record} {rowOf : Record → Row} {instantOf : Record → Instant}
    (column : columns.find? (fun column => column.key == key) = some (.minute key header))
    (reads : ∀ json record, ofJson json = .ok record →
      Checked.required (fieldsOf keys json) key readTimestamp = .formed (instantOf record))
    (held : ∀ record, rowOf record key = some (instantValue (instantOf record))) :
    ShowsInstant columns keys key ofJson rowOf := by
  have cell (record : Record) : cellAt columns key (rowOf record) =
      some (.left (if IsPlainYear (instantOf record).date.year then utcMinute (instantOf record)
        else (instantOf record).text .digits)) := by
    rw [cellAt, column, Option.map_some, ← minuteTextOfInstant .digits (held record)]
    rfl
  have denoted (json : Json) (record : Record) (read : ofJson json = .ok record) :
      ∃ text, fieldsOf keys json key = some (.string text) ∧
        Denotes text.toList (instantOf record) :=
    timestampOfFormed (reads json record read)
  refine ⟨fun json record read => ?_, ?_⟩
  · obtain ⟨text, field, reading⟩ := denoted json record read
    exact ⟨text, _, field, reading, held record, cell record⟩
  · intro json other record otherRecord text otherText instant read otherRead field otherField
      denotes otherDenotes
    obtain ⟨_, sameField, shows⟩ := denoted json record read
    obtain ⟨_, sameOtherField, otherShows⟩ := denoted other otherRecord otherRead
    cases field.symm.trans sameField
    cases otherField.symm.trans sameOtherField
    rw [cell record, cell otherRecord, shows.unique denotes, otherShows.unique otherDenotes]

theorem cellAtOfText {columns : List Column}
    (column : columns.find? (fun column => column.key == key) = some (.minute key header))
    (held : row key = some (.string text)) : cellAt columns key row =
      some (.left (((readStrict? text.toList).map (·.minuteText)).getD text)) := by
  rw [cellAt, column, Option.map_some]
  simp only [Column.minute, minuteText, fieldText, held]

theorem showsTextOfField {columns : List Column}
    (column : columns.find? (fun column => column.key == key) = some (.minute key header)) :
    ShowsText columns key := by
  refine ⟨fun json text held unread => ?_, fun json text instant held read => ?_, ?_⟩
  · rw [cellAtOfText column held, unread]
    rfl
  · refine ⟨denotesOfStrict read, ?_⟩
    rw [cellAtOfText column held, read]
    rfl
  · intro json other text otherText instant held otherHeld accepted otherAccepted denotes
      otherDenotes
    obtain ⟨found, read⟩ := Option.isSome_iff_exists.mp accepted
    obtain ⟨otherFound, otherRead⟩ := Option.isSome_iff_exists.mp otherAccepted
    rw [cellAtOfText column held, cellAtOfText column otherHeld, read, otherRead,
      (denotesOfStrict read).unique denotes, (denotesOfStrict otherRead).unique otherDenotes]
    rfl

/-- The columns of the last heartbeat and of the creation show instants in UTC. -/
theorem minuteCellsShowUtc :
    ShowsInstant nodeColumns Node.keys "lastHeartbeatAt" Node.ofJson Node.row ∧
      ShowsInstant instanceColumns Instance.keys "createdAt" Instance.ofJson Instance.row ∧
      ShowsText nodeColumns "lastHeartbeatAt" ∧ ShowsText instanceColumns "createdAt" := by
  have heartbeats : nodeColumns.find? (fun column => column.key == "lastHeartbeatAt") =
      some (.minute "lastHeartbeatAt" "Last heartbeat") := rfl
  have creations : instanceColumns.find? (fun column => column.key == "createdAt") =
      some (.minute "createdAt" "Created") := rfl
  refine ⟨?_, ?_, showsTextOfField heartbeats, showsTextOfField creations⟩
  · exact showsInstantOfField heartbeats
      (fun _ _ read => Node.heartbeatOfCheck (formedOfRecord read)) fun _ => rfl
  · exact showsInstantOfField creations
      (fun _ _ read => Instance.creationOfCheck (formedOfRecord read)) fun _ => rfl

/-- A row of a node whose last heartbeat is spelled in some way. -/
def heartbeatRow (heartbeat : String) : Json :=
  .array [.string "n", .string "n", .string "r", .integer 0, .boolean false, .integer 2, .integer 1,
    .string heartbeat, .string "1"]

/-- A leap second of a leap day, spelled loosely on the next day of an offset, is shown in UTC. -/
theorem leapDaySecondShown :
    ∃ node, Node.ofJson (heartbeatRow "+2024 -03- 1t00:15:60.5 +01:30") = .ok node ∧
      cellAt nodeColumns "lastHeartbeatAt" node.row = some (.left "2024-02-29 22:45 UTC") := by
  obtain ⟨node, read⟩ : ∃ node,
      Node.ofJson (heartbeatRow "+2024 -03- 1t00:15:60.5 +01:30") = .ok node := ⟨_, rfl⟩
  obtain ⟨text, instant, field, denotes, -, cell⟩ := minuteCellsShowUtc.1.shown _ node read
  have leapDaySecond : Denotes "+2024 -03- 1t00:15:60.5 +01:30".toList
      ⟨⟨2024, 2, 29, by decide⟩, ⟨22, 45, 60, 500000000⟩⟩ :=
    readRelaxedIff.mp (by decide +kernel)
  cases field
  obtain rfl := denotes.unique leapDaySecond
  refine ⟨node, read, cell.trans ?_⟩
  decide +kernel

end FleetPanel.Table
