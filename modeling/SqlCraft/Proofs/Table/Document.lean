/-
**Tables are read back from their documents.**

Each record of a table is written with the members of its fields in order; what is left out is absent or
false, as it is in the blank record that reading starts from. Names and texts may be any, and any members
may be left out: the only condition is on doubles, which not all have a text that is read as the same one.

* `DefaultValue.denotes`, `ForeignKey.denotes`, `KeyMarker.denotes`, `Column.denotes` — the parts of a table;
* `Table.floats` — the defaults of a table that are doubles;
* `Table.denotes`, `Table.denotes_groups` — tables and groups of tables.
-/

import SqlCraft.Proofs.Json.Document

namespace SqlCraft

open Json (Reader Denotes Fills ReadsBack)

variable {room : Nat}

/-! ### Names and defaults -/

theorem ColumnType.denotes (type : ColumnType) :
    Denotes ColumnType.reader room (.string type.name) type :=
  ⟨.string _, Json.Variant.readAny_constant (by decide) (by cases type <;> decide)⟩

theorem ReferentialAction.denotes (action : ReferentialAction) :
    Denotes ReferentialAction.reader room (.string action.name) action :=
  ⟨.string _, Json.Variant.readAny_constant (by decide) (by cases action <;> decide)⟩

/-- The double of a default. -/
def DefaultValue.float? : DefaultValue → Option Float
  | .float value => some value
  | _ => none

theorem DefaultValue.denotes (default : DefaultValue)
    (readsBack : ∀ value ∈ default.float?, ReadsBack value) :
    Denotes DefaultValue.reader (room + 1) default.toJson default := by
  cases default with
  | null => exact ⟨.string _, rfl⟩
  | bool value =>
    exact .variant (.holding "Bool" .bool Reader.bool) rfl ((Denotes.bool value).map rfl)
  | integer value =>
    exact .variant (.holding "Integer" .integer Reader.int64) rfl ((Denotes.int64 value).map rfl)
  | float value =>
    have same := readsBack value rfl
    exact .variant (.holding "Float" .float Reader.double) rfl ((Denotes.double same).map rfl)
  | string value =>
    exact .variant (.holding "String" .string Reader.string) rfl ((Denotes.string value).map rfl)
  | expression sql =>
    exact .variant (.holding "Expression" .expression Reader.string) rfl ((Denotes.string sql).map rfl)

/-! ### Keys -/

theorem ForeignKey.denotes (key : ForeignKey) : Denotes ForeignKey.reader (room + 1) key.toJson key := by
  unfold toJson
  simp only [List.append_assoc, List.cons_append, List.nil_append]
  rw [← List.append_nil (Json.member? "onUpdate" _ _)]
  apply Denotes.record (by decide)
  apply Fills.must (.string key.table)
  apply Fills.must (.string key.field)
  apply Fills.optional (fun name _ => .string name) nofun rfl
  apply Fills.optional (fun action _ => action.denotes) nofun rfl
  apply Fills.optional (fun action _ => action.denotes) nofun rfl
  exact .done

namespace KeyMarker

/-- Names are values that can be looked at. -/
theorem itemsToJson?_names (names : List String) :
    Json.Source.itemsToJson? (Json.itemSources (names.map .string)) = some (names.map .string) := by
  induction names with
  | nil => rfl
  | cons name rest ih =>
    rw [List.map_cons, Json.itemSources, Json.Source.itemsToJson?, ih]
    rfl

/-- A composite marker is an object that can be looked at. -/
theorem toJson?_composite (partners : List String) (order : Int32) :
    ∃ members, (composite partners order).toJson.source.toJson? = some (.object members) := by
  have fits : -0x8000000000000000 ≤ order.toInt ∧ order.toInt < 0x10000000000000000 := by
    have least := order.minValue_le_toInt
    have most := order.toInt_lt
    simp only [Int32.toInt_minValue] at least
    omega
  have number := Json.Token.number?_ofInt fits
  have held := itemsToJson?_names partners
  simp only [toJson, Json.source, Json.memberSources, Json.Source.toJson?, Json.Source.membersToJson?,
    held, number]
  exact ⟨_, rfl⟩

theorem denotes (marker : KeyMarker) : Denotes KeyMarker.reader (room + 2) marker.toJson marker := by
  cases marker with
  | single => exact ⟨.bool true, rfl⟩
  | composite partners order =>
    have fills : Fills set (room + 1) layout.fields (.composite [] 0)
        [("with", .array (partners.map .string)), ("order", .integer order.toInt)]
        (.composite partners order) := by
      apply Fills.must (.list fun name _ => .string name)
      apply Fills.must (.int32 order)
      exact .done
    obtain ⟨parts, read, made⟩ := fills.read (by decide)
    obtain ⟨members, whole⟩ := toJson?_composite partners order
    refine ⟨.object fills.readable, ?_⟩
    rw [reader, whole]
    dsimp only
    rw [toJson, read]
    exact congrArg Except.ok made

end KeyMarker

/-! ### Columns and tables -/

theorem Column.denotes (column : Column)
    (readsBack : ∀ default ∈ column.defaultValue, ∀ value ∈ default.float?, ReadsBack value) :
    Denotes Column.reader (room + 3) column.toJson column := by
  unfold toJson
  simp only [List.append_assoc, List.cons_append, List.nil_append]
  rw [← List.append_nil (Json.flag "boolean" _)]
  apply Denotes.record (by decide)
  apply Fills.must (.string column.name)
  apply Fills.must column.type.denotes
  apply Fills.optional (fun size _ => .uint32 size) nofun rfl
  apply Fills.flag rfl
  apply Fills.optional (fun marker _ => marker.denotes) nofun rfl
  -- The record so far in one piece: `rfl` would go through the members before it again for each field.
  dsimp only [set]
  apply Fills.flag rfl
  apply Fills.optional (fun marker _ => marker.denotes) nofun rfl
  apply Fills.optional (fun key _ => key.denotes) nofun rfl
  dsimp only [set]
  apply Fills.optional (fun default held => default.denotes (readsBack default held)) nofun rfl
  apply Fills.flag rfl
  apply Fills.flag rfl
  dsimp only [set]
  apply Fills.optional (fun comment _ => .string comment) nofun rfl
  apply Fills.flag rfl
  exact .done

/-- The defaults of a table that are doubles. -/
def Table.floats (table : Table) : List Float :=
  table.columns.filterMap fun column => column.defaultValue.bind DefaultValue.float?

/-- **A table is read back from its document.** -/
theorem Table.denotes {table : Table} (readsBack : ∀ value ∈ table.floats, ReadsBack value) :
    Denotes Table.reader (room + 5) table.toJson table := by
  apply Denotes.record (by decide)
  apply Fills.must (.string table.name)
  apply Fills.must
  · refine .list fun column inside => column.denotes fun default held value among => ?_
    refine readsBack value (List.mem_filterMap.2 ⟨column, inside, ?_⟩)
    rw [Option.mem_def.1 held]
    exact among
  · exact .done

/-- **Groups of tables are read back from their document.** -/
theorem Table.denotes_groups {groups : List TableGroup}
    (readsBack : ∀ group ∈ groups, ∀ table ∈ group, ∀ value ∈ table.floats, ReadsBack value) :
    Denotes Table.groupsReader (room + 7) (Table.groupsToJson groups) groups :=
  .list fun group among => .list fun table inside => Table.denotes (readsBack group among table inside)

end SqlCraft
