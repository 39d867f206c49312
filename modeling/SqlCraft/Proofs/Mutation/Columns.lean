/-
**No column is named twice.**

The columns that a data row is inserted into, those that an update sets and those that a row is matched by
are fields of one row, all of them or some. A row has no field twice, since it holds what was inserted in the
order of the first insertions; so its statement names no column twice, also in a batch.

* `Request.NamesOnce` — what the statement of a request names;
* `Write.batched_namesOnce`, `Write.statements_namesOnce` — what a batch names;
* `Mutation.compile_namesOnce` — the statements of a plan;
* `Row.run_namesOnce` — from the calls on rows to the statements.
-/

import SqlCraft.Proofs.Mutation.Merging
import SqlCraft.Proofs.Row

namespace SqlCraft

open Sql
open List (Forall₂)

/-! ### Statements -/

/-- The statement of a request names no column twice in any list that it takes from a row. -/
inductive Request.NamesOnce : Request → Written → Prop
  | insertRow {table : Table} {kind : RowWrite} {row : Row} {further : List Token}
    (columns : (row.entries.map Prod.fst).Nodup)
    (merged : ∀ merges, merges? table.name further = some merges → (merges.map Merge.field).Nodup) :
    NamesOnce ⟨table, .row kind row⟩ (.insert table.name row.entries further)
  | updateRow {table : Table} {row : Row} {assignments key : List (String × Value)}
    {condition : List Token} (columns : (assignments.map Prod.fst).Nodup)
    (matched : Predicate.ofTokens? condition = some (.oneOf [Write.keyTests table.name key]))
    (keys : (key.map Prod.fst).Nodup) :
    NamesOnce ⟨table, .row .update row⟩ (.update table.name assignments (some condition))
  | deleteRow {table : Table} {row : Row} {key : List (String × Value)} {condition : List Token}
    (matched : Predicate.ofTokens? condition = some (.oneOf [Write.keyTests table.name key]))
    (keys : (key.map Prod.fst).Nodup) :
    NamesOnce ⟨table, .row .delete row⟩ (.delete table.name (some condition))
  | setUpdate {table : Table} {assignments : Row} {filter : Filter}
    {condition : Option (List Token)} (columns : (assignments.entries.map Prod.fst).Nodup) :
    NamesOnce ⟨table, .setUpdate assignments filter⟩
      (.update table.name assignments.entries condition)
  | setDelete {table : Table} {filter : Filter} {condition : Option (List Token)} :
    NamesOnce ⟨table, .setDelete filter⟩ (.delete table.name condition)
  | setInsert {table : Table} {columns : List String} {source : Query} {query : List Token} :
    NamesOnce ⟨table, .setInsert columns source⟩
      (.insertQuery table.name (if columns.isEmpty then table.columnNames else columns) query)

/-- The entries of a row that pass any test have different fields. -/
theorem Row.nodup_filter (row : Row) (passes : String × Value → Bool) :
    ((row.entries.filter passes).map Prod.fst).Nodup :=
  row.distinct.sublist (List.filter_sublist.map Prod.fst)

namespace Write

/-- An upsert assigns no column twice. -/
theorem nodup_updated (table : Table) (row : Row) : (updated (.ofRow table row)).Nodup := by
  unfold updated
  split
  · exact row.nodup_filter _
  · exact row.nodup_filter _

/-- What is read of the assignments of an upsert are those to `updated`. -/
theorem nodup_merges {table : Table} {kind : RowWrite} {row : Row} {merges : List Merge}
    (read : merges? table.name (duplicateTokens table.name kind (.ofRow table row)) = some merges) :
    (merges.map Merge.field).Nodup := by
  by_cases merging : kind = .upsert ∨ kind = .addUpsert
  · by_cases apart : table.name = incoming
    · rw [apart, duplicateTokens, if_pos merging, merges?_self (by decide)] at read
      cases read
    · rw [merges?_duplicateTokens apart merging] at read
      cases read
      rw [List.map_map]
      exact (List.map_id' (updated _)).symm ▸ nodup_updated table row
  · rw [duplicateTokens, if_neg merging] at read
    cases read

end Write

/-- **The statement of a request names no column twice.** -/
theorem Request.Makes.namesOnce {request : Request} {write : Write} (makes : request.Makes write) :
    ∃ written, (write.statement request.table.name).ReadAs written ∧ request.NamesOnce written := by
  cases makes with
  | @insertRow table kind row inserts =>
    exact ⟨_, Write.readAs_insertion _ inserts _,
      .insertRow row.distinct fun _ read => Write.nodup_merges read⟩
  | @updateRow table row =>
    obtain ⟨condition, matched, read⟩ := Write.readAs_keyedUpdate _ _
    exact ⟨_, read, .updateRow (row.nodup_filter _) matched (row.nodup_filter _)⟩
  | @deleteRow table row =>
    obtain ⟨condition, matched, read⟩ := Write.readAs_keyedDelete _ _
    exact ⟨_, read, .deleteRow matched (row.nodup_filter _)⟩
  | @setUpdate table assignments filter clauses compiled =>
    obtain ⟨condition, tells, -⟩ := Filter.askedBy_of_tells compiled
    exact ⟨_, Write.readAs_setUpdate _ _ tells, .setUpdate assignments.distinct⟩
  | setDelete compiled =>
    obtain ⟨condition, tells, -⟩ := Filter.askedBy_of_tells compiled
    exact ⟨_, Write.readAs_setDelete _ tells, .setDelete⟩
  | setInsert compiled =>
    obtain ⟨query, -, whole⟩ := Write.readAs_setInsert _ _ compiled
    exact ⟨_, whole, .setInsert⟩

/-! ### Batches -/

/-- A batch into a table names no column twice. -/
def Sql.Statement.BatchNamesOnce (table : String) (statement : Statement) : Prop :=
  statement.isBatch → ∃ fields tail,
    statement.sql = "INSERT INTO " ++ quote table ++ " (" ++ quoteList fields ++ ") VALUES ?" ++ tail ∧
      fields.Nodup

namespace Write

/-- A row that may be batched names no column twice. -/
theorem batched_namesOnce {request : Request} {write : Write} (makes : request.Makes write)
    (table : String) : (write.batched table).BatchNamesOnce table := by
  intro isBatch
  cases makes with
  | @insertRow own kind row inserts =>
    let batch := Batch.ofRow table kind (.ofRow own row)
    have head : batch.head =
        "INSERT INTO " ++ quote table ++ " (" ++ quoteList row.fields ++ ") " := text_opening table _
    have words : ") VALUES ?" = ") " ++ "VALUES ?" := rfl
    refine ⟨row.fields, batch.tail, ?_, row.distinct⟩
    rw [batched_row inserts, Batch.statement, batch.sql_eq, head, words]
    simp only [String.append_assoc]
  | updateRow | deleteRow | setUpdate | setDelete | setInsert => exact Bool.noConfusion isBatch

/-- **Merging batches names no column twice**: the rows that come to a batch do not change its text. -/
theorem statements_namesOnce {requests : List Request} {writes : List Write}
    (made : Forall₂ Request.Makes requests writes) (table : String) (batching : Bool) :
    ∀ statement ∈ statements table batching writes, statement.BatchNamesOnce table := by
  have each : ∀ write ∈ writes, (write.batched table).BatchNamesOnce table := by
    intro write inside
    obtain ⟨request, -, makes⟩ := exists_of_forall₂ made inside
    exact batched_namesOnce makes table
  unfold statements
  split
  · refine mergeBatches_forall _ (fun _ _ _ first _ => first) fun statement inside => ?_
    obtain ⟨write, among, rfl⟩ := List.mem_map.1 inside
    exact each write among
  · intro statement inside isBatch
    obtain ⟨write, -, rfl⟩ := List.mem_map.1 inside
    exact absurd isBatch (not_isBatch_statement table write)

end Write

/-! ### Plans -/

/-- **The statements of a plan name no column twice.** -/
theorem Mutation.compile_namesOnce {mutation : Mutation} {batched : Bool} {plan : Plan}
    (compiled : mutation.compile batched = .ok plan) :
    ∀ entry ∈ plan.tables,
      (∀ statement ∈ entry.statements, statement.BatchNamesOnce entry.table) ∧
      Forall₂ (fun request statement => ∃ written, statement.ReadAs written ∧ request.NamesOnce written)
        (mutation.requestsTo entry.table) (entry.statements.flatMap Statement.separated) := by
  intro entry inside
  refine ⟨?_, compile_statements compiled inside fun makes => makes.namesOnce⟩
  obtain ⟨writes, same, makes⟩ := (compile_requests compiled).2.2 entry inside
  have made : entry.statements = Write.statements entry.table batched writes := by rw [same]; rfl
  rw [made]
  exact Write.statements_namesOnce (makes.imp fun _ _ both => both.2) entry.table batched

/-- **Rows are maps in the order of insertion, and what is compiled from rows names no column twice.** Any
calls leave a row that holds what was inserted since it was last replaced; one more insertion changes the
value of its field where it stands, or adds it at the end. -/
theorem Row.run_namesOnce (start : Row) (changes : List Row.Change) :
    let row := changes.foldl Row.change start
    row.MapOf (changes.foldl Row.Change.record start.entries) ∧
    (∀ {α : Type} [ToValue α] (field : String) (value : α),
      (field ∈ row.fields → (row.insert field value).entries =
        row.entries.map fun entry => if entry.1 = field then (field, toValue value) else entry) ∧
      (field ∉ row.fields →
        (row.insert field value).entries = row.entries ++ [(field, toValue value)])) ∧
    ∀ (mutation : Mutation) (batched : Bool) (plan : Plan), mutation.compile batched = .ok plan →
      ∀ entry ∈ plan.tables,
        (∀ statement ∈ entry.statements, statement.BatchNamesOnce entry.table) ∧
        Forall₂ (fun request statement => ∃ written, statement.ReadAs written ∧ request.NamesOnce written)
          (mutation.requestsTo entry.table) (entry.statements.flatMap Statement.separated) := by
  intro row
  refine ⟨start.mapOf_entries.run changes, fun field value => ⟨fun inside => ?_, fun absent => ?_⟩,
    fun mutation batched plan compiled => Mutation.compile_namesOnce compiled⟩
  · exact entries_insertValue_of_mem inside (toValue value)
  · exact entries_insertValue_of_not_mem absent (toValue value)

/-- A row that was collected and then changed, in a batch with itself and matched by its key. -/
theorem Row.run_namesOnce_songs :
    let songs : Table := ⟨"songs", [{ name := "id", type := .int, primaryKey := true },
      { name := "title", type := .varchar }]⟩
    let changes : List Row.Change := [.insert "album" (1 : Int64),
      .collect [("title", .text "a"), ("id", .int 1), ("title", .text "b")], .insert "id" (2 : Int64)]
    let row := changes.foldl Row.change .empty
    let mutation : Mutation := .node ⟨songs, .rows .upsert [row, row]⟩
      [("more", Mutation.ofTable songs (.rows .update [row]))]
    let statements : List Statement := [
      ⟨"INSERT INTO `songs` (`title`, `id`) VALUES ? AS NEW_VAL " ++
        "ON DUPLICATE KEY UPDATE `songs`.`title` = NEW_VAL.`title`",
        .rows [[.text "b", .int 2], [.text "b", .int 2]]⟩,
      ⟨"UPDATE `songs` SET `title` = ? WHERE `songs`.`id` = ?",
        .values [.text "b", .int 2]⟩]
    row.entries = [("title", .text "b"), ("id", .int 2)] ∧
    row.MapOf [("title", .text "a"), ("id", .int 1), ("title", .text "b"), ("id", .int 2)] ∧
    (row.insert "title" "c").entries = [("title", .text "c"), ("id", .int 2)] ∧
    mutation.compile true = .ok ⟨[⟨"songs", false, statements⟩]⟩ ∧
    (∀ statement ∈ statements, statement.BatchNamesOnce "songs") ∧
    Forall₂ (fun request statement => ∃ written, statement.ReadAs written ∧ request.NamesOnce written)
      (mutation.requestsTo "songs") (statements.flatMap Statement.separated) := by
  intro songs changes row mutation statements
  have compiled : mutation.compile true = .ok ⟨[⟨"songs", false, statements⟩]⟩ := by decide +kernel
  obtain ⟨holds, inserts, plans⟩ := Row.run_namesOnce .empty changes
  obtain ⟨batches, read⟩ := plans mutation true _ compiled _ List.mem_cons_self
  have changed := (inserts "title" "c").1 (by decide +kernel)
  exact ⟨by decide +kernel, holds, changed.trans (by decide +kernel), compiled, batches, read⟩

end SqlCraft
