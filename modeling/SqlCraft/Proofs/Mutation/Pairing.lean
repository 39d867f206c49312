/-
**Every value stands with its own column.**

Without batching, a plan has one statement per request. Its text is read back, whatever characters the
names have, and its values take the placeholders from left to right: then each column has the value that
the request gives it, and no placeholder and no value is left over.

* `Filter.AskedBy` — a condition asks what a filter does, with the values of the filter;
* `Request.WrittenAs` — what the statement of a request is read as;
* `Mutation.compile_pairs` — the statements of a plan are read as the requests.
-/

import SqlCraft.Proofs.Filter.Values
import SqlCraft.Proofs.Mutation.Request
import SqlCraft.Proofs.Mutation.Tokens

namespace SqlCraft

open Sql
open List (Forall₂)

/-- A condition, or that there is none, asks what a filter of a table does. -/
structure Filter.AskedBy (filter : Filter) (table : String) (condition : Option (List Token)) :
    Prop where
  absent : condition = none ↔ filter = []
  values_eq : Sql.values (condition.getD []) = filter.values
  means : ∃ predicate, Predicate.ofTokens? (condition.getD []) = some predicate ∧
    ∀ relation row, predicate.truth relation row =
      filter.truth relation fun field => row ⟨table, field⟩

/-- What the statement of a request is read as: its columns, each with its own value. -/
inductive Request.WrittenAs : Request → Written → Prop
  | insertRow {table : Table} {kind : RowWrite} {row : Row} {further : List Token}
    (inserts : kind.insertsValues) (valueless : values further = [])
    (plain : kind = .insert → further = []) :
    WrittenAs ⟨table, .row kind row⟩ (.insert table.name row.entries further)
  | updateRow {table : Table} {row : Row} {condition : List Token}
    (matched : Predicate.ofTokens? condition = some (.oneOf [Write.keyTests table.name
      (row.entries.filter fun entry => table.isPrimaryKey entry.1)])) :
    WrittenAs ⟨table, .row .update row⟩ (.update table.name
      (row.entries.filter fun entry => !table.isPrimaryKey entry.1) (some condition))
  | deleteRow {table : Table} {row : Row} {condition : List Token}
    (matched : Predicate.ofTokens? condition = some (.oneOf [Write.keyTests table.name
      (row.entries.filter fun entry => table.isPrimaryKey entry.1)])) :
    WrittenAs ⟨table, .row .delete row⟩ (.delete table.name (some condition))
  | setUpdate {table : Table} {assignments : Row} {filter : Filter}
    {condition : Option (List Token)} (asked : filter.AskedBy table.name condition) :
    WrittenAs ⟨table, .setUpdate assignments filter⟩
      (.update table.name assignments.entries condition)
  | setDelete {table : Table} {filter : Filter} {condition : Option (List Token)}
    (asked : filter.AskedBy table.name condition) :
    WrittenAs ⟨table, .setDelete filter⟩ (.delete table.name condition)
  | setInsert {table : Table} {columns : List String} {source : Query} {built : BoundText}
    {query : List Token} (compiled : source.build = .ok built)
    (read : tokens? built.sql built.params = some query) (values_eq : values query = built.params) :
    WrittenAs ⟨table, .setInsert columns source⟩
      (.insertQuery table.name (if columns.isEmpty then table.columnNames else columns) query)

/-- The tokens of a compiled filter ask what the filter does. -/
theorem Filter.askedBy_of_tells {filter : Filter} {table : Table} {clauses : List Clause}
    (compiled : filter.compile table = .ok clauses) :
    ∃ condition, (Clause.conjunction clauses).Tells condition ∧
      filter.AskedBy table.name (if clauses = [] then none else some condition) := by
  obtain ⟨condition, tells, means⟩ := Filter.tells compiled
  have held : (if clauses = [] then none else some condition).getD [] = condition := by
    by_cases empty : clauses = []
    · subst empty
      exact tells.eq_nil.symm
    · rw [if_neg empty, Option.getD_some]
  refine ⟨condition, tells, Filter.condition_eq_none_iff compiled condition, ?_, ?_⟩
  · rw [held, ← tells.params_eq, params_conjunction compiled]
  · rw [held]
    exact means

/-- **The statement of a request is read as it.** -/
theorem Request.Makes.writtenAs {request : Request} {write : Write} (makes : request.Makes write) :
    ∃ written, (write.statement request.table.name).ReadAs written ∧ request.WrittenAs written := by
  cases makes with
  | insertRow inserts =>
    refine ⟨_, Write.readAs_insertion _ inserts _, .insertRow inserts ?_ ?_⟩
    · exact Write.values_duplicateTokens _ _ _
    · rintro rfl
      rfl
  | updateRow =>
    obtain ⟨condition, matched, read⟩ := Write.readAs_keyedUpdate _ _
    exact ⟨_, read, .updateRow matched⟩
  | deleteRow =>
    obtain ⟨condition, matched, read⟩ := Write.readAs_keyedDelete _ _
    exact ⟨_, read, .deleteRow matched⟩
  | setUpdate compiled =>
    obtain ⟨condition, tells, asked⟩ := Filter.askedBy_of_tells compiled
    exact ⟨_, Write.readAs_setUpdate _ _ tells, .setUpdate asked⟩
  | setDelete compiled =>
    obtain ⟨condition, tells, asked⟩ := Filter.askedBy_of_tells compiled
    exact ⟨_, Write.readAs_setDelete _ tells, .setDelete asked⟩
  | @setInsert table columns source select compiled =>
    obtain ⟨query, read, whole⟩ := Write.readAs_setInsert table.name _ compiled
    have built : source.build = .ok select.fragment.bound := by rw [Query.build, compiled]; rfl
    exact ⟨_, whole, .setInsert built read (values_of_tokens? read).symm⟩

namespace Mutation

/-- **The statements of a plan are read as the requests of its mutation.** -/
theorem compile_pairs (mutation : Mutation) (plan : Plan)
    (compiled : mutation.compile false = .ok plan) :
    (plan.tables.map TablePlan.table).Nodup ∧
    (∀ request ∈ mutation.requests, ∃ entry ∈ plan.tables, entry.table = request.table.name) ∧
    ∀ entry ∈ plan.tables, Forall₂
      (fun request statement => ∃ written, statement.ReadAs written ∧ request.WrittenAs written)
      (mutation.requestsTo entry.table) entry.statements := by
  obtain ⟨distinct, covered, entries⟩ := compile_requests compiled
  refine ⟨distinct, covered, fun entry inside => ?_⟩
  obtain ⟨writes, same, makes⟩ := entries entry inside
  have single : entry.statements = writes.map (Write.statement entry.table) := by rw [same]; rfl
  rw [single, List.forall₂_map_right_iff]
  refine makes.imp fun request write ⟨table, made⟩ => ?_
  rw [← table]
  exact made.writtenAs

/-- Placeholders, assignments and the word that starts a condition are read as names where they are
names. -/
theorem compile_pairs_quoted :
    let poets : Table := ⟨"po?ets\x60", [{ name := "VALUES ?", type := .int, primaryKey := true },
      { name := "\x60 = ?, \x60", type := .varchar }]⟩
    let poems : Table := ⟨" WHERE ", [{ name := "?", type := .int }]⟩
    let copied : Query := (Query.ofTable poets).filter (Filter.empty.eq "VALUES ?" (1 : Int64))
    let mutation : Mutation := .node ⟨poets, .rows .update
        [{ entries := [("\x60 = ?, \x60", .text "?"), ("VALUES ?", .int 7)] }]⟩
      [("new", Mutation.ofTable poets (.rows .upsert
          [{ entries := [("VALUES ?", .int 8), ("\x60 = ?, \x60", .null)] }])),
        ("copied", Mutation.ofTable poems (.setInsert ["?"] copied)),
        ("set", Mutation.ofTable poems (.setUpdate { entries := [("?", .int 5)] }
          (Filter.empty.op "?" .gt (3 : Int64)))),
        ("gone", Mutation.ofTable poems (.setDelete []))]
    let plan : Plan := ⟨[
      ⟨"po?ets\x60", true, [
        ⟨"UPDATE \x60po?ets\x60\x60\x60 SET \x60\x60\x60 = ?, \x60\x60\x60 = ? " ++
          "WHERE \x60po?ets\x60\x60\x60.\x60VALUES ?\x60 = ?", .values [.text "?", .int 7]⟩,
        ⟨"INSERT INTO \x60po?ets\x60\x60\x60 (\x60VALUES ?\x60, \x60\x60\x60 = ?, \x60\x60\x60) " ++
          "VALUES (?, ?) AS NEW_VAL ON DUPLICATE KEY UPDATE " ++
          "\x60po?ets\x60\x60\x60.\x60\x60\x60 = ?, \x60\x60\x60 = NEW_VAL.\x60\x60\x60 = ?, \x60\x60\x60",
          .values [.int 8, .null]⟩]⟩,
      ⟨" WHERE ", false, [
        ⟨"INSERT INTO \x60 WHERE \x60 (\x60?\x60) SELECT \x60po?ets\x60\x60\x60.\x60VALUES ?\x60, " ++
          "\x60po?ets\x60\x60\x60.\x60\x60\x60 = ?, \x60\x60\x60 FROM \x60po?ets\x60\x60\x60 " ++
          "WHERE \x60po?ets\x60\x60\x60.\x60VALUES ?\x60 = ?", .values [.int 1]⟩,
        ⟨"UPDATE \x60 WHERE \x60 SET \x60 WHERE \x60.\x60?\x60 = ? " ++
          "WHERE \x60 WHERE \x60.\x60?\x60 > ?", .values [.int 5, .int 3]⟩,
        ⟨"DELETE FROM \x60 WHERE \x60", .values []⟩]⟩]⟩
    mutation.compile false = .ok plan ∧
    (∀ request ∈ mutation.requests, ∃ entry ∈ plan.tables, entry.table = request.table.name) ∧
    ∀ entry ∈ plan.tables, Forall₂
      (fun request statement => ∃ written, statement.ReadAs written ∧ request.WrittenAs written)
      (mutation.requestsTo entry.table) entry.statements := by
  intro poets poems copied mutation plan
  have compiled : mutation.compile false = .ok plan := by decide +kernel
  exact ⟨compiled, (compile_pairs mutation plan compiled).2⟩

end Mutation

end SqlCraft
