/-
This file shows that a record is shown alike as a row of its own and as the JSON that it is written
as. Timestamps are spelled in two ways there, and denote one instant.
-/

import FleetPanel.Proofs.Table.Minutes

namespace FleetPanel

/-- The row of an object holds what each of its distinct keys was given. -/
theorem Json.rowOfMembers {members : List (String × Json)}
    (distinct : (members.map Prod.fst).Nodup) : (ofMembers members).row = member? members := by
  obtain ⟨sorted, made, same⟩ := objectOfMembers distinct
  rw [made]
  exact same

namespace Fleet

variable {key : String}

theorem Node.rowOfJson (node : Node) : node.toJson.row = Json.member? node.members :=
  Json.rowOfMembers (node.keysOfMembers ▸ distinctKeys)

theorem Instance.rowOfJson (inst : Instance) : inst.toJson.row = Json.member? inst.members :=
  Json.rowOfMembers (distinctKeys.sublist inst.keysOfMembers)

/-- Both rows hold texts that denote one instant. -/
def SameInstant (left right : Option Json) : Prop :=
  ∃ text other instant, left = some (.string text) ∧ right = some (.string other) ∧
    Time.Denotes text.toList instant ∧ Time.Denotes other.toList instant

/-- Two rows have the same keys and under them the same values, but for timestamps, which denote
the same instants, and for some keys with values of their own. -/
structure RowsAgree (own timestamps : List String) (left right : Row) : Prop where
  keys : ∀ key, (left key).isSome = (right key).isSome
  values : ∀ key, key ∉ own → key ∉ timestamps → left key = right key
  instants : ∀ key ∈ timestamps, (left key).isSome → SameInstant (left key) (right key)

theorem sameInstantOfText (instant : Time.Instant) :
    SameInstant (some (instantValue instant)) (some (.string (instant.text .letter))) :=
  ⟨_, _, instant, rfl, rfl, Time.readRelaxedIff.mp (Time.readRelaxedText .digits instant),
    Time.readRelaxedIff.mp (Time.readRelaxedText .letter instant)⟩

theorem Node.rowValue (node : Node) (other : key ≠ "lastHeartbeatAt") :
    node.row key = Json.member? node.members key := by
  unfold Node.row
  split
  case h_8 => exact absurd rfl other
  case h_12 =>
    refine (Json.memberNone ?_).symm
    rw [keysOfMembers]
    simp_all [keys]
  all_goals rfl

theorem Instance.rowValue (inst : Instance) (notNode : key ≠ "node")
    (other : key ∉ ["createdAt", "updatedAt", "startedAt", "stoppedAt"]) :
    inst.row key = Json.member? inst.members key := by
  obtain ⟨-, -, failure⟩ := inst.memberOptional
  unfold Instance.row
  split
  case h_6 => exact absurd rfl notNode
  case h_12 | h_13 | h_14 | h_15 => simp at other
  case h_16 => exact failure.symm
  case h_17 =>
    refine (Json.memberNone fun inside => ?_).symm
    have inside := inst.keysOfMembers.subset inside
    simp_all [keys]
  all_goals rfl

theorem Node.rowTimestamp (node : Node) (timestamp : key ∈ ["lastHeartbeatAt"]) :
    ∃ instant? : Option Time.Instant, node.row key = instant?.map instantValue ∧
      node.toJson.row key = instant?.map fun instant => .string (instant.text .letter) := by
  obtain rfl := List.mem_singleton.mp timestamp
  rw [node.rowOfJson]
  exact ⟨some node.lastHeartbeatAt, rfl, rfl⟩

theorem Instance.rowTimestamp (inst : Instance)
    (timestamp : key ∈ ["createdAt", "updatedAt", "startedAt", "stoppedAt"]) :
    ∃ instant? : Option Time.Instant, inst.row key = instant?.map instantValue ∧
      inst.toJson.row key = instant?.map fun instant => .string (instant.text .letter) := by
  obtain ⟨started, stopped, -⟩ := inst.memberOptional
  rw [inst.rowOfJson]
  simp only [List.mem_cons, List.not_mem_nil, or_false] at timestamp
  rcases timestamp with rfl | rfl | rfl | rfl
  · exact ⟨some inst.createdAt, rfl, rfl⟩
  · exact ⟨some inst.updatedAt, rfl, rfl⟩
  · exact ⟨inst.startedAt?, rfl, started⟩
  · exact ⟨inst.stoppedAt?, rfl, stopped⟩

/-- Rows agree if each timestamp is one instant in both and all other values are the same. -/
theorem rowsAgreeOf {own timestamps : List String} {left right : Row}
    (shown : ∀ key ∈ own, (left key).isSome = (right key).isSome)
    (values : ∀ key, key ∉ own → key ∉ timestamps → left key = right key)
    (instants : ∀ key ∈ timestamps, ∃ instant? : Option Time.Instant,
      left key = instant?.map instantValue ∧
        right key = instant?.map fun instant => .string (instant.text .letter)) :
    RowsAgree own timestamps left right := by
  refine ⟨fun key => ?_, values, fun key timestamp present => ?_⟩
  · by_cases isOwn : key ∈ own
    · exact shown key isOwn
    · by_cases timestamp : key ∈ timestamps
      · obtain ⟨instant?, inLeft, inRight⟩ := instants key timestamp
        rw [inLeft, inRight, Option.isSome_map, Option.isSome_map]
      · rw [values key isOwn timestamp]
  · obtain ⟨instant?, inLeft, inRight⟩ := instants key timestamp
    rw [inLeft, inRight]
    cases instant? with
    | none =>
        rw [inLeft] at present
        cases present
    | some instant => exact sameInstantOfText instant

theorem Node.rowsAgree (node : Node) :
    RowsAgree [] ["lastHeartbeatAt"] node.row node.toJson.row := by
  refine rowsAgreeOf (List.forall_mem_nil _) (fun key _ other => ?_) fun key => node.rowTimestamp
  rw [node.rowOfJson]
  exact node.rowValue fun same => other (List.mem_singleton.mpr same)

theorem Instance.rowsAgree (inst : Instance) :
    RowsAgree ["node"] ["createdAt", "updatedAt", "startedAt", "stoppedAt"]
      inst.row inst.toJson.row := by
  refine rowsAgreeOf (fun key node => ?_) (fun key notNode other => ?_) fun key =>
    inst.rowTimestamp
  · obtain rfl := List.mem_singleton.mp node
    rw [inst.rowOfJson]
    rfl
  · rw [inst.rowOfJson]
    exact inst.rowValue (fun same => notNode (List.mem_singleton.mpr same)) other

end Fleet

namespace Table

open Fleet

variable {left right : Row} {key : String} {instant : Time.Instant}

theorem fieldTextSame (same : left key = right key) : fieldText left key = fieldText right key := by
  rw [fieldText, fieldText, same]

/-- A timestamp is shown alike whichever way its offset is written. -/
theorem minuteTextAlike (plain : IsPlainYear instant.date.year)
    (inLeft : left key = some (instantValue instant))
    (inRight : right key = some (.string (instant.text .letter))) :
    minuteText left key = minuteText right key := by
  rw [minuteTextOfInstant .digits inLeft, minuteTextOfInstant .letter inRight, if_pos plain,
    if_pos plain]

theorem nodeCellsAlike (node : Node) (plain : IsPlainYear node.lastHeartbeatAt.date.year) :
    ∀ column ∈ nodeColumns, column.cell node.row = column.cell node.toJson.row := by
  have text (key : String) (other : key ∉ ["lastHeartbeatAt"]) :
      fieldText node.row key = fieldText node.toJson.row key :=
    fieldTextSame (node.rowsAgree.values key List.not_mem_nil other)
  have heartbeat : minuteText node.row "lastHeartbeatAt" =
      minuteText node.toJson.row "lastHeartbeatAt" :=
    minuteTextAlike plain rfl (by rw [node.rowOfJson]; rfl)
  simp only [nodeColumns, List.forall_mem_cons, Column.title, Column.text, Column.slots,
    Column.minute, heartbeat, text "name" (by decide), text "status" (by decide),
    text "region" (by decide), text "usedSlots" (by decide), text "capacitySlots" (by decide),
    text "nodeVersion" (by decide), true_and]
  exact List.forall_mem_nil _

theorem instanceCellsAlike (inst : Instance) (plain : IsPlainYear inst.createdAt.date.year) :
    ∀ column ∈ instanceColumns,
      if column.key = "node" then column.cell inst.row = .left inst.node.name
      else column.cell inst.row = column.cell inst.toJson.row := by
  have value (key : String) (notNode : key ∉ ["node"])
      (other : key ∉ ["createdAt", "updatedAt", "startedAt", "stoppedAt"]) :
      inst.row key = inst.toJson.row key := inst.rowsAgree.values key notNode other
  have creation : minuteText inst.row "createdAt" = minuteText inst.toJson.row "createdAt" :=
    minuteTextAlike plain rfl (by rw [inst.rowOfJson]; rfl)
  have name := fieldTextSame (value "displayName" (by decide) (by decide))
  have state := fieldTextSame (value "state" (by decide) (by decide))
  have region := fieldTextSame (value "region" (by decide) (by decide))
  have amount := value "amount" (by decide) (by decide)
  simp only [instanceColumns, List.forall_mem_cons]
  refine ⟨?_, ?_, rfl, ?_, ?_, ?_, List.forall_mem_nil _⟩
  · simp [Column.title, name]
  · simp [Column.text, state]
  · simp [Column.text, region]
  · simp [Column.minute, creation]
  · simp [Column.amount, amount]

/-- The cell of a view in a row and a column, if it has both. -/
def View.cell? (view : View) (place index : Nat) : Option Cell :=
  view.rows[place]?.bind fun cells => cells[index]?

/-- A view has one row for each row and in it one cell for each column. -/
theorem View.cellOfRender (columns : List Column) (rows : List Row) (place index : Nat) :
    (render columns rows).cell? place index =
      rows[place]?.bind fun row => columns[index]?.map fun column => column.cell row := by
  simp only [cell?, render, List.getElem?_map, Option.bind_map, Function.comp_def]

theorem instanceViewsAlike {instances : List Instance} {place index : Nat} {column : Column}
    (plain : ∀ inst ∈ instances, IsPlainYear inst.createdAt.date.year)
    (found : instanceColumns[index]? = some column) :
    if column.key = "node" then
      (View.render instanceColumns (instances.map Instance.row)).cell? place index =
        instances[place]?.map fun inst => .left inst.node.name
    else
      (View.render instanceColumns (instances.map Instance.row)).cell? place index =
        (View.render instanceColumns (instances.map fun inst => inst.toJson.row)).cell?
          place index := by
  simp only [View.cellOfRender, List.getElem?_map, found]
  cases stands : instances[place]? with
  | none => simp
  | some inst =>
      have alike := instanceCellsAlike inst (plain inst (List.mem_of_getElem? stands)) column
        (List.mem_of_getElem? found)
      split at alike
      · case isTrue isNode => simp [isNode, alike]
      · case isFalse notNode => simp [notNode, alike]

/-- A record and the JSON that it is written as agree as rows and are shown alike, but for the node
of an instance, which its own row shows by name. A view shows the cells of its columns, row by
row. -/
theorem rowsRenderAlike :
    (∀ columns rows place index, (View.render columns rows).cell? place index =
      rows[place]?.bind fun row => columns[index]?.map fun column => column.cell row) ∧
    (∀ node : Node, IsPlainYear node.lastHeartbeatAt.date.year →
      ∀ column ∈ nodeColumns, column.cell node.row = column.cell node.toJson.row) ∧
    (∀ nodes : List Node, (∀ node ∈ nodes, IsPlainYear node.lastHeartbeatAt.date.year) →
      View.render nodeColumns (nodes.map Node.row) =
        View.render nodeColumns (nodes.map fun node => node.toJson.row)) ∧
    (∀ inst : Instance, IsPlainYear inst.createdAt.date.year → ∀ column ∈ instanceColumns,
      if column.key = "node" then column.cell inst.row = .left inst.node.name
      else column.cell inst.row = column.cell inst.toJson.row) ∧
    (∀ instances : List Instance, (∀ inst ∈ instances, IsPlainYear inst.createdAt.date.year) →
      ∀ place index column, instanceColumns[index]? = some column →
        if column.key = "node" then
          (View.render instanceColumns (instances.map Instance.row)).cell? place index =
            instances[place]?.map fun inst => .left inst.node.name
        else
          (View.render instanceColumns (instances.map Instance.row)).cell? place index =
            (View.render instanceColumns (instances.map fun inst => inst.toJson.row)).cell?
              place index) ∧
    (∀ node : Node, RowsAgree [] ["lastHeartbeatAt"] node.row node.toJson.row) ∧
    ∀ inst : Instance, RowsAgree ["node"] ["createdAt", "updatedAt", "startedAt", "stoppedAt"]
      inst.row inst.toJson.row := by
  refine ⟨View.cellOfRender, nodeCellsAlike, fun nodes plain => ?_, instanceCellsAlike,
    fun _ plain _ _ _ => instanceViewsAlike plain, Node.rowsAgree, Instance.rowsAgree⟩
  have cells : (nodes.map Node.row).map (fun row => nodeColumns.map fun column => column.cell row) =
      (nodes.map fun node => node.toJson.row).map
        fun row => nodeColumns.map fun column => column.cell row := by
    rw [List.map_map, List.map_map]
    refine List.map_congr_left fun node listed => ?_
    exact List.map_congr_left (nodeCellsAlike node (plain node listed))
  rw [View.render, View.render, cells]

/-- The last second of the last year with four digits, a leap second. -/
def lastSecond : Time.Instant :=
  ⟨⟨9999, 12, 31, by decide⟩, .ofNumbers 23 59 60 1⟩

def lastNode : Node :=
  ⟨"n", "n", "r", .online, false, 2, 1, lastSecond, "1", "", ""⟩

theorem lastNodeRendersAlike :
    IsPlainYear lastNode.lastHeartbeatAt.date.year ∧
      View.render nodeColumns [lastNode.row] = View.render nodeColumns [lastNode.toJson.row] := by
  have plain : IsPlainYear lastNode.lastHeartbeatAt.date.year := by decide
  obtain ⟨-, -, nodes, -⟩ := rowsRenderAlike
  exact ⟨plain, nodes [lastNode] (List.forall_mem_singleton.mpr plain)⟩

end Table

end FleetPanel
