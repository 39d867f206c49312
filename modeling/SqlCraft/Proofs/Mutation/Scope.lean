/-
**Updates and deletions touch no more rows than asked.**

In sound tables, what is matched by key is matched by every column of the primary key, and the columns
that an update sets are the others of its row. What is scoped by a filter has exactly the condition of
the filter, and has none only if the filter asks nothing. All of this is read from the statements.

* `MatchesKey` — a condition asks for the row with the primary key of a data row;
* `Filter.Restricts` — a condition is that of a filter;
* `Request.ScopedAs` — what the statement of a request may touch;
* `Mutation.compile_scoped` — the statements of a plan touch no more.
-/

import SqlCraft.Proofs.Mutation.Batching
import SqlCraft.Proofs.Mutation.Pairing
import SqlCraft.Proofs.Table.Soundness

namespace SqlCraft

open Sql
open List (Forall₂)

/-! ### Scopes -/

namespace Row

/-- The entries of a row for columns of the primary key. -/
def keyEntries (row : Row) (table : Table) : List (String × Value) :=
  row.entries.filter fun entry => entry.1 ∈ table.primaryKey

/-- The entries of a row for other columns. -/
def otherEntries (row : Row) (table : Table) : List (String × Value) :=
  row.entries.filter fun entry => entry.1 ∉ table.primaryKey

theorem nodup_keyEntries (row : Row) (table : Table) : ((row.keyEntries table).map Prod.fst).Nodup :=
  row.distinct.sublist (List.filter_sublist.map Prod.fst)

theorem nodup_otherEntries (row : Row) (table : Table) :
    ((row.otherEntries table).map Prod.fst).Nodup :=
  row.distinct.sublist (List.filter_sublist.map Prod.fst)

theorem otherEntries_eq_nil_iff {row : Row} {table : Table} :
    row.otherEntries table = [] ↔ ∀ field ∈ row.fields, field ∈ table.primaryKey := by
  simp [otherEntries, fields, List.filter_eq_nil_iff]

end Row

/-- A condition asks that each column of the primary key equals what a row has for it. -/
structure MatchesKey (table : Table) (row : Row) (condition : List Token) : Prop where
  key_ne_nil : table.primaryKey ≠ []
  /-- Each column of the primary key is asked for once, and no other one. -/
  perm : ((row.keyEntries table).map Prod.fst).Perm table.primaryKey
  nodup : table.primaryKey.Nodup
  asked : Predicate.ofTokens? condition =
    some (.oneOf [Write.keyTests table.name (row.keyEntries table)])

/-- A condition is that of a compiled filter; there is none if the filter has no entries. -/
structure Filter.Restricts (filter : Filter) (table : Table) (condition : Option (List Token)) :
    Prop where
  absent : condition = none ↔ filter = []
  exact : ∃ clauses, filter.compile table = .ok clauses ∧ ∀ tokens ∈ condition,
    tokens? (Clause.conjunction clauses).text (Clause.conjunction clauses).params = some tokens

/-- What the statement of a request may touch. -/
inductive Request.ScopedAs : Request → Written → Prop
  | insertRow {table : Table} {kind : RowWrite} {row : Row} {further : List Token}
    (inserts : kind.insertsValues) :
    ScopedAs ⟨table, .row kind row⟩ (.insert table.name row.entries further)
  | updateRow {table : Table} {row : Row} {condition : List Token}
    (matched : MatchesKey table row condition) (more : row.otherEntries table ≠ [])
    (distinct : ((row.otherEntries table).map Prod.fst).Nodup) :
    ScopedAs ⟨table, .row .update row⟩
      (.update table.name (row.otherEntries table) (some condition))
  | deleteRow {table : Table} {row : Row} {condition : List Token}
    (matched : MatchesKey table row condition) :
    ScopedAs ⟨table, .row .delete row⟩ (.delete table.name (some condition))
  | setUpdate {table : Table} {assignments : Row} {filter : Filter}
    {condition : Option (List Token)} (restricts : filter.Restricts table condition) :
    ScopedAs ⟨table, .setUpdate assignments filter⟩
      (.update table.name assignments.entries condition)
  | setDelete {table : Table} {filter : Filter} {condition : Option (List Token)}
    (restricts : filter.Restricts table condition) :
    ScopedAs ⟨table, .setDelete filter⟩ (.delete table.name condition)
  | setInsert {table : Table} {columns : List String} {source : Query} {query : List Token} :
    ScopedAs ⟨table, .setInsert columns source⟩
      (.insertQuery table.name (if columns.isEmpty then table.columnNames else columns) query)

/-! ### Keys -/

section

variable {table : Table} {row : Row}

theorem isPrimaryKey_eq (distinct : table.columnNames.Nodup) (name : String) :
    table.isPrimaryKey name = decide (name ∈ table.primaryKey) :=
  Bool.eq_iff_iff.2 ((table.isPrimaryKey_iff distinct name).trans decide_eq_true_iff.symm)

theorem KeyedRow.ofRow_key (distinct : table.columnNames.Nodup) (row : Row) :
    (ofRow table row).key = row.keyEntries table :=
  List.filter_congr fun entry _ => isPrimaryKey_eq distinct entry.1

theorem KeyedRow.ofRow_others (distinct : table.columnNames.Nodup) (row : Row) :
    (ofRow table row).others = row.otherEntries table := by
  refine List.filter_congr fun entry _ => ?_
  rw [isPrimaryKey_eq distinct, decide_not]

/-- A row with the whole key has each column of the primary key once. -/
theorem Row.perm_keyEntries (distinct : table.columnNames.Nodup)
    (complete : (KeyedRow.ofRow table row).hasKey table.primaryKey) :
    ((row.keyEntries table).map Prod.fst).Perm table.primaryKey := by
  refine (List.perm_ext_iff_of_nodup (row.nodup_keyEntries table)
    (Table.nodup_primaryKey distinct)).2 fun name => ?_
  constructor
  · intro inside
    obtain ⟨entry, among, rfl⟩ := List.mem_map.1 inside
    exact decide_eq_true_iff.1 (List.mem_filter.1 among).2
  · intro inside
    have every := (Bool.and_eq_true_iff.1 complete).2
    obtain ⟨entry, among, same⟩ := List.any_eq_true.1 (List.all_eq_true.1 every name inside)
    rw [KeyedRow.ofRow_key distinct] at among
    exact List.mem_map.2 ⟨entry, among, beq_iff_eq.1 same⟩

theorem MatchesKey.of_complete (distinct : table.columnNames.Nodup)
    (complete : (KeyedRow.ofRow table row).hasKey table.primaryKey) {condition : List Token}
    (asked : Predicate.ofTokens? condition =
      some (.oneOf [Write.keyTests table.name (KeyedRow.ofRow table row).key])) :
    MatchesKey table row condition where
  key_ne_nil := by
    intro none
    rw [none] at complete
    cases complete
  perm := Row.perm_keyEntries distinct complete
  nodup := Table.nodup_primaryKey distinct
  asked := by rw [asked, KeyedRow.ofRow_key distinct]

end

/-! ### Statements -/

theorem Filter.restricts_of_tells {filter : Filter} {table : Table} {clauses : List Clause}
    (compiled : filter.compile table = .ok clauses) :
    ∃ condition, (Clause.conjunction clauses).Tells condition ∧
      filter.Restricts table (if clauses = [] then none else some condition) := by
  obtain ⟨condition, tells, -⟩ := Filter.tells compiled
  refine ⟨condition, tells, Filter.condition_eq_none_iff compiled condition, clauses, compiled,
    fun tokens inside => ?_⟩
  split at inside
  · cases inside
  · cases inside
    exact tells.tokens?_eq

/-- **The statement of a request touches no more than asked.** -/
theorem Request.Makes.scopedAs {request : Request} {write : Write} (makes : request.Makes write)
    (distinct : request.table.columnNames.Nodup) :
    ∃ written, (write.statement request.table.name).ReadAs written ∧ request.ScopedAs written := by
  cases makes with
  | insertRow inserts => exact ⟨_, Write.readAs_insertion _ inserts _, .insertRow inserts⟩
  | @updateRow table row complete more =>
    obtain ⟨condition, asked, read⟩ := Write.readAs_keyedUpdate _ _
    rw [KeyedRow.ofRow_others distinct] at read more
    exact ⟨_, read, .updateRow (.of_complete distinct complete asked) more
      (row.nodup_otherEntries table)⟩
  | deleteRow complete only =>
    obtain ⟨condition, asked, read⟩ := Write.readAs_keyedDelete _ _
    exact ⟨_, read, .deleteRow (.of_complete distinct complete asked)⟩
  | setUpdate compiled =>
    obtain ⟨condition, tells, restricts⟩ := Filter.restricts_of_tells compiled
    exact ⟨_, Write.readAs_setUpdate _ _ tells, .setUpdate restricts⟩
  | setDelete compiled =>
    obtain ⟨condition, tells, restricts⟩ := Filter.restricts_of_tells compiled
    exact ⟨_, Write.readAs_setDelete _ tells, .setDelete restricts⟩
  | setInsert compiled =>
    obtain ⟨query, -, whole⟩ := Write.readAs_setInsert _ _ compiled
    exact ⟨_, whole, .setInsert⟩

namespace Mutation

/-- **The statements of a plan touch no more than asked.** Batches insert; all other statements, and the
single rows of batches, are those of the requests. -/
theorem compile_scoped (mutation : Mutation) (batched : Bool) (plan : Plan)
    (sound : ∀ node ∈ mutation.preorder, node.table.validate = .ok ())
    (compiled : mutation.compile batched = .ok plan) :
    ∀ entry ∈ plan.tables,
      (∀ statement ∈ entry.statements, statement.isBatch →
        "INSERT INTO ".toList <+: statement.sql.toList) ∧
      Forall₂ (fun request statement => ∃ written, statement.ReadAs written ∧ request.ScopedAs written)
        (mutation.requestsTo entry.table) (entry.statements.flatMap Statement.separated) := by
  intro entry inside
  obtain ⟨-, -, entries⟩ := compile_requests compiled
  obtain ⟨writes, same, makes⟩ := entries entry inside
  have made : entry.statements = Write.statements entry.table batched writes := by rw [same]; rfl
  rw [made]
  refine ⟨fun statement among isBatch => ?_, ?_⟩
  · obtain ⟨batch, rfl⟩ := Write.statements_batch among isBatch
    show _ <+: batch.sql.toList
    rw [batch.sql_eq, Batch.head, Write.text_opening]
    simp only [String.toList_append, List.append_assoc]
    exact List.prefix_append _ _
  · rw [Write.statements_separated, List.forall₂_map_right_iff]
    have columns : ∀ request ∈ mutation.requestsTo entry.table, request.table.columnNames.Nodup := by
      intro request asked
      obtain ⟨node, visited, own⟩ := List.mem_flatMap.1 (List.mem_filter.1 asked).1
      obtain ⟨task, -, rfl⟩ := List.mem_map.1 own
      exact Table.nodup_columnNames (sound node visited)
    refine ((List.forall₂_and_left _ _).2 ⟨columns, makes⟩).imp fun request write both => ?_
    obtain ⟨distinct, table, makes⟩ := both
    rw [← table]
    exact makes.scopedAs distinct

/-- Matched by two key columns in another order than the row's, and by a filter. -/
theorem compile_scoped_songs :
    let songs : Table := ⟨"songs", [{ name := "album", type := .int, primaryKey := true },
      { name := "track", type := .int, primaryKey := true }, { name := "title", type := .varchar }]⟩
    let mutation : Mutation := .node ⟨songs, .rows .update
        [{ entries := [("title", .null), ("track", .int 2), ("album", .int 1)] }]⟩
      [("gone", Mutation.ofTable songs (.rows .delete [{ entries := [("album", .int 1), ("track", .int 3)] }])),
        ("untitled", Mutation.ofTable songs (.setUpdate { entries := [("title", .text "?")] }
          (Filter.empty.isNull "title"))),
        ("all", Mutation.ofTable songs (.setDelete []))]
    let plan : Plan := ⟨[⟨"songs", true, [
      ⟨"UPDATE \x60songs\x60 SET \x60title\x60 = ? WHERE \x60songs\x60.\x60track\x60 = ? AND " ++
        "\x60songs\x60.\x60album\x60 = ?", .values [.null, .int 2, .int 1]⟩,
      ⟨"DELETE FROM \x60songs\x60 WHERE \x60songs\x60.\x60album\x60 = ? AND " ++
        "\x60songs\x60.\x60track\x60 = ?", .values [.int 1, .int 3]⟩,
      ⟨"UPDATE \x60songs\x60 SET \x60songs\x60.\x60title\x60 = ? " ++
        "WHERE \x60songs\x60.\x60title\x60 IS NULL", .values [.text "?"]⟩,
      ⟨"DELETE FROM \x60songs\x60", .values []⟩]⟩]⟩
    (∀ node ∈ mutation.preorder, node.table.validate = .ok ()) ∧
    mutation.compile true = .ok plan ∧
    ∀ entry ∈ plan.tables, Forall₂
      (fun request statement => ∃ written, statement.ReadAs written ∧ request.ScopedAs written)
      (mutation.requestsTo entry.table) (entry.statements.flatMap Statement.separated) := by
  intro songs mutation plan
  have sound : ∀ node ∈ mutation.preorder, node.table.validate = .ok () := by decide +kernel
  have compiled : mutation.compile true = .ok plan := by decide +kernel
  exact ⟨sound, compiled, fun entry inside =>
    (compile_scoped mutation true plan sound compiled entry inside).2⟩

end Mutation

end SqlCraft
