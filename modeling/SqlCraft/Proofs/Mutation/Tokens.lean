/-
**What writes are read as.**

Each kind of write has a statement of its own shape. It is read as the table, the columns and the values
that it was made of, and as the condition on the rows that it changes or deletes.

* `tells_keyMatch`, `Filter.tells` — the conditions of writes: equality with key values, and filters;
* `Write.readAs_insertion`, `readAs_keyedUpdate`, `readAs_keyedDelete` — the writes of data rows;
* `Write.readAs_setUpdate`, `readAs_setDelete`, `readAs_setInsert` — the writes of whole sets.
-/

import SqlCraft.Mutation.Write
import SqlCraft.Proofs.Mutation.Insertion
import SqlCraft.Proofs.Query.Where
import SqlCraft.Proofs.Sql.Written

namespace SqlCraft

open Sql
open List (Forall₂)

/-- **A filter is read as a condition with its value.** -/
theorem Filter.tells {table : Table} {filter : Filter} {clauses : List Clause}
    (compiled : filter.compile table = .ok clauses) :
    ∃ tokens, (Clause.conjunction clauses).Tells tokens ∧
      ∃ predicate, Predicate.ofTokens? tokens = some predicate ∧ ∀ relation row,
        predicate.truth relation row =
          filter.truth relation fun field => row ⟨table.name, field⟩ := by
  obtain ⟨parts, reads, truth⟩ := compileCriteria_reads table filter compiled
  obtain ⟨tokens, tells, -, stands⟩ := Fragment.tells_conjunction reads
  refine ⟨tokens, tells, _, stands, fun relation row => ?_⟩
  rw [Predicate.truth_oneOf_singleton, truth, Filter.truth]

/-- There is no condition if the filter asks nothing. -/
theorem Filter.condition_eq_none_iff {table : Table} {filter : Filter} {clauses : List Clause}
    (compiled : filter.compile table = .ok clauses) (condition : List Token) :
    (if clauses = [] then none else some condition) = none ↔ filter = [] := by
  rw [← compileCriteria_eq_nil_iff compiled, ite_eq_left_iff]
  simp

namespace Write

/-! ### Parts of statements -/

theorem tells_names (list : List String) : (Fragment.names list).Tells (nameTokens list) :=
  .commas fun name _ => .name name .nil .nil

/-- The start of an insertion: its table and its columns. -/
theorem tells_columns (table : String) (columns : List String) {fragment : Fragment}
    {tokens : List Token} (opens : fragment.Opens) (later : fragment.Tells tokens) :
    Fragment.Tells
      ([.word "INSERT INTO ", .identifier table, .word " ("] ++ Fragment.names columns ++ fragment)
      ([.symbol "INSERT", .symbol "INTO", .name table, .symbol "("] ++
        (nameTokens columns ++ tokens)) := by
  rw [List.append_assoc]
  exact .word ["INSERT", "INTO"] (by decide +kernel) <| .name table (.word (by decide) _) <|
    .word ["("] (by decide +kernel) ((tells_names columns).append opens later)

theorem tells_tuple (held : List Value) {fragment : Fragment} {tokens : List Token}
    (later : fragment.Tells tokens) :
    Fragment.Tells (tuple held ++ fragment)
      (.symbol "(" :: (valueTokens held ++ .symbol ")" :: tokens)) := by
  have slots : Fragment.Tells (Fragment.join ", " (held.map fun value => [.slot value]))
      (valueTokens held) := .commas fun value _ => .slot value .nil
  have closed : Fragment.Tells (.word ")" :: fragment) _ := .word [")"] (by decide +kernel) later
  have whole : Fragment.Tells (.word "(" :: _) _ :=
    .word ["("] (by decide +kernel) (slots.append (.word (by decide) _) closed)
  simpa only [tuple, Fragment.parenthesized, List.map_cons, List.map_nil, List.cons_append,
    List.nil_append, List.append_assoc] using whole

/-- The start of an update: its table and what it sets. Columns can be written in any way that is
read. -/
theorem tells_update (table : String) {column : String → Fragment} {read : String → List Token}
    (tells : ∀ field {fragment later}, fragment.Opens → fragment.Tells later →
      Fragment.Tells (column field ++ fragment) (read field ++ later))
    (entries : List (String × Value)) {fragment : Fragment} {tokens : List Token}
    (opens : fragment.Opens) (later : fragment.Tells tokens) :
    Fragment.Tells
      ([.word "UPDATE ", .identifier table, .word " SET "] ++ assignments column entries ++ fragment)
      ([.symbol "UPDATE", .name table, .symbol "SET"] ++
        (assignmentTokens read entries ++ tokens)) := by
  have assigned : (assignments column entries).Tells (assignmentTokens read entries) :=
    .commas fun entry _ => tells entry.1 (.word (by decide) _)
      (.word ["="] (by decide +kernel) (.slot entry.2 .nil))
  rw [List.append_assoc]
  exact .word ["UPDATE"] (by decide +kernel) <| .name table (.word (by decide) _) <|
    .word ["SET"] (by decide +kernel) (assigned.append opens later)

/-- The tests of key columns. -/
def keyTests (table : String) (key : List (String × Value)) : List Predicate :=
  key.map fun entry => .test ⟨table, entry.1⟩ (.compare .equal entry.2)

theorem reads_keyTest (table : String) (entry : String × Value) :
    Fragment.Reads ((ColumnName.mk table entry.1).fragment ++ [.word " = ", .slot entry.2])
      [[.test ⟨table, entry.1⟩ (.compare .equal entry.2)]] :=
  .test ⟨table, entry.1⟩ (.compare .equal entry.2)

/-- **The match of a key is read as one equality for each of its columns.** -/
theorem tells_keyMatch (table : String) (key : List (String × Value)) :
    ∃ tokens, (keyMatch table key).Tells tokens ∧
      Predicate.ofTokens? tokens = some (.oneOf [keyTests table key]) := by
  have reads : Forall₂ (fun fragment part => Fragment.Reads fragment [part])
      (key.map fun entry => (ColumnName.mk table entry.1).fragment ++ [.word " = ", .slot entry.2])
      (key.map fun entry => [.test ⟨table, entry.1⟩ (.compare .equal entry.2)]) := by
    rw [List.forall₂_map_left_iff, List.forall₂_map_right_iff]
    exact List.forall₂_same.2 fun entry _ => reads_keyTest table entry
  obtain ⟨tokens, tells, -, stands⟩ := Fragment.tells_conjunction reads
  rw [← List.flatMap_def, ← List.map_eq_flatMap] at stands
  exact ⟨tokens, tells, stands⟩

/-- The tokens of the assignment of one field of the incoming row. -/
def updateTokens (column : ColumnName) (adds : Bool) : List Token :=
  column.tokens ++ [.symbol "=", .symbol incoming, .symbol ".", .name column.field] ++
    if adds then .symbol "+" :: column.tokens else []

theorem tells_updateAssignment (table : String) (adds : Bool) (field : String) :
    (updateAssignment table adds field).Tells (updateTokens ⟨table, field⟩ adds) := by
  have stored {fragment : Fragment} {tokens : List Token} := @Fragment.Tells.column fragment tokens
    ⟨table, field⟩
  have word : lex (" = " ++ incoming ++ ".").toList = some (["=", incoming, "."].map .symbol) ∧
      (" = " ++ incoming ++ ".").toList.getLast?.all isApart := by decide +kernel
  unfold updateAssignment updateTokens
  rw [List.append_assoc, List.append_assoc]
  cases adds with
  | false => exact stored (.word (by decide) _) (.word _ word (.name field .nil .nil))
  | true =>
    have added := stored .nil .nil
    rw [List.append_nil, List.append_nil] at added
    exact stored (.word (by decide) _) (.word _ word (.name field (.word (by decide) _)
      (.word ["+"] (by decide +kernel) added)))

/-- The tokens of what becomes of a stored row with the same key. -/
def duplicateTokens (table : String) (kind : RowWrite) (row : KeyedRow) : List Token :=
  if kind = .upsert ∨ kind = .addUpsert then
    ["AS", incoming, "ON", "DUPLICATE", "KEY", "UPDATE"].map .symbol ++
      commas ((updated row).map fun field =>
        updateTokens ⟨table, field⟩ (kind = .addUpsert && !row.others.isEmpty))
  else []

theorem tells_onDuplicate (table : String) (kind : RowWrite) (row : KeyedRow) :
    (onDuplicate table kind row).Tells (duplicateTokens table kind row) := by
  unfold onDuplicate duplicateTokens
  split
  · exact .word ["AS", incoming, "ON", "DUPLICATE", "KEY", "UPDATE"] (by decide +kernel)
      (.commas fun field _ => tells_updateAssignment table _ field)
  · exact .nil

theorem values_duplicateTokens (table : String) (kind : RowWrite) (row : KeyedRow) :
    values (duplicateTokens table kind row) = [] := by
  rw [← (tells_onDuplicate table kind row).params_eq, params_onDuplicate]

/-! ### Data rows -/

/-- An insertion is read as its columns with their values, and what becomes of a stored row. -/
theorem readAs_insertion (table : String) {kind : RowWrite} (inserts : kind.insertsValues)
    (row : KeyedRow) :
    (statement table (.row kind row)).ReadAs
      (.insert table row.entries (duplicateTokens table kind row)) := by
  have tells := tells_onDuplicate table kind row
  have held :
      Fragment.Tells (.word ") VALUES " :: (tuple row.values ++ onDuplicate table kind row)) _ :=
    .word [")", "VALUES"] (by decide +kernel) (tells_tuple row.values tells)
  have whole := tells_columns table row.fields (.word (by decide) _) held
  refine Fragment.Tells.readAs ?_ (Written.ofTokens?_insert table row.entries _)
  have own : rowFragment table kind row = insertion table kind row (tuple row.values) := by
    cases kind <;> first | rfl | cases inserts
  simpa only [fragment, own, insertion, KeyedRow.fields, KeyedRow.values, List.map_cons, List.map_nil,
    List.cons_append, List.nil_append, List.append_assoc] using whole

theorem readAs_update_of_tells (table : String) (row : KeyedRow) {condition : List Token}
    (tells : (keyMatch table row.key).Tells condition) :
    (statement table (.row .update row)).ReadAs (.update table row.others (some condition)) := by
  have column : ∀ (field : String) {fragment : Fragment} {later : List Token}, fragment.Opens →
      fragment.Tells later →
      Fragment.Tells ([.identifier field] ++ fragment) ([.name field] ++ later) :=
    fun field _ _ => .name field
  have asked : Fragment.Tells (.word " WHERE " :: keyMatch table row.key)
      (.symbol "WHERE" :: condition) := .word ["WHERE"] (by decide +kernel) tells
  have whole := tells_update table column row.others (.word (by decide) _) asked
  refine Fragment.Tells.readAs ?_ (Written.ofTokens?_update (.inl rfl) row.others (some condition))
  simpa only [fragment, rowFragment, List.append_assoc, List.cons_append, List.nil_append,
    Option.map_some, Option.getD_some] using whole

theorem readAs_delete_of_tells (table : String) (row : KeyedRow) {condition : List Token}
    (tells : (keyMatch table row.key).Tells condition) :
    (statement table (.row .delete row)).ReadAs (.delete table (some condition)) := by
  refine Fragment.Tells.readAs ?_ (Written.ofTokens?_delete table (some condition))
  exact .word ["DELETE", "FROM"] (by decide +kernel) <| .name table (.word (by decide) _) <|
    .word ["WHERE"] (by decide +kernel) tells

theorem readAs_keyedUpdate (table : String) (row : KeyedRow) :
    ∃ condition, Predicate.ofTokens? condition = some (.oneOf [keyTests table row.key]) ∧
      (statement table (.row .update row)).ReadAs (.update table row.others (some condition)) := by
  obtain ⟨condition, tells, stands⟩ := tells_keyMatch table row.key
  exact ⟨condition, stands, readAs_update_of_tells table row tells⟩

theorem readAs_keyedDelete (table : String) (row : KeyedRow) :
    ∃ condition, Predicate.ofTokens? condition = some (.oneOf [keyTests table row.key]) ∧
      (statement table (.row .delete row)).ReadAs (.delete table (some condition)) := by
  obtain ⟨condition, tells, stands⟩ := tells_keyMatch table row.key
  exact ⟨condition, stands, readAs_delete_of_tells table row tells⟩

/-! ### Whole sets -/

/-- A filter stands behind `WHERE`, or nothing does if it asks nothing. -/
theorem tells_filter {clauses : List Clause} {condition : List Token}
    (tells : (Clause.conjunction clauses).Tells condition) :
    (Clause.whereFragment clauses).Tells
        (((if clauses = [] then none else some condition).map (.symbol "WHERE" :: ·)).getD []) ∧
      (Clause.whereFragment clauses).Opens := by
  have whole := Select.tells_where tells .nil .nil
  rw [List.append_nil, List.append_nil] at whole
  cases clauses <;> exact whole

theorem readAs_setUpdate (table : String) (entries : List (String × Value)) {clauses : List Clause}
    {condition : List Token} (tells : (Clause.conjunction clauses).Tells condition) :
    (statement table (.update entries clauses)).ReadAs
      (.update table entries (if clauses = [] then none else some condition)) := by
  have column : ∀ (field : String) {fragment : Fragment} {later : List Token}, fragment.Opens →
      fragment.Tells later → Fragment.Tells ((ColumnName.mk table field).fragment ++ fragment)
        ([.name table, .symbol ".", .name field] ++ later) :=
    fun field _ _ => .column ⟨table, field⟩
  obtain ⟨asked, opens⟩ := tells_filter tells
  exact (tells_update table column entries opens asked).readAs
    (Written.ofTokens?_update (.inr rfl) entries _)

theorem readAs_setDelete (table : String) {clauses : List Clause} {condition : List Token}
    (tells : (Clause.conjunction clauses).Tells condition) :
    (statement table (.delete clauses)).ReadAs
      (.delete table (if clauses = [] then none else some condition)) := by
  obtain ⟨asked, opens⟩ := tells_filter tells
  refine Fragment.Tells.readAs ?_ (Written.ofTokens?_delete table _)
  exact .word ["DELETE", "FROM"] (by decide +kernel) (.name table opens asked)

/-- The query of an insertion is read as it is on its own. -/
theorem readAs_setInsert (table : String) (columns : List String) {source : Query} {select : Select}
    (compiled : source.compile = .ok select) :
    ∃ query, tokens? select.fragment.text select.fragment.params = some query ∧
      (statement table (.insertSelect columns select)).ReadAs (.insertQuery table columns query) := by
  obtain ⟨own, clauses, filters⟩ := Query.compile_filters compiled
  obtain ⟨condition, asked, -⟩ := conjunction_tells filters
  rw [← clauses] at asked
  have query := select.tells asked
  have closed : Fragment.Tells (.word ") " :: select.fragment) _ :=
    .word [")"] (by decide +kernel) query
  have whole := tells_columns table columns (.word (by decide) _) closed
  refine ⟨_, query.tokens?_eq,
    Fragment.Tells.readAs ?_ (Written.ofTokens?_insertQuery table columns ?_)⟩
  · simpa only [fragment, List.map_cons, List.map_nil, List.cons_append, List.nil_append,
      List.append_assoc] using whole
  · exact fun rest same => absurd (List.cons.inj same).1 (by decide)

end Write

end SqlCraft
