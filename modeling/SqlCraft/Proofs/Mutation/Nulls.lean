/-
**Where nulls are compared.**

All that a query asks comes from its filters, and so does what is asked of whole sets of rows; there, null
is asked for by name. A data row that is updated or deleted is matched by its key instead, and this compares
each column of the key with the row's own value. If that is null, the comparison is true of no stored row.

* `Query.NamesNulls` — a query binds no null and asks for every null by name;
* `Query.namesNulls_of_compile` — all queries do;
* `Written.condition` — what a statement asks of the rows it touches;
* `Request.MatchesNull` — a row is matched by a null in its key;
* `Request.AsksNulls` — the statement of a request binds null in its condition exactly in this case;
* `Mutation.compile_nulls` — so do the statements of a plan;
* `Mutation.compile_nulls_key` — a deletion that does.
-/

import SqlCraft.Proofs.Filter.Nulls
import SqlCraft.Proofs.Mutation.Batching
import SqlCraft.Proofs.Mutation.RowPlan
import SqlCraft.Proofs.Mutation.Tokens
import SqlCraft.Table.Validity

namespace SqlCraft

open Sql
open List (Forall₂)

theorem Sql.Fragment.Tells.unique {fragment : Fragment} {tokens others : List Token}
    (tells : fragment.Tells tokens) (again : fragment.Tells others) : tokens = others :=
  Option.some.inj (tells.tokens?_eq.symm.trans again.tokens?_eq)

/-! ### Queries -/

/-- A condition binds no null, and all filters of a query ask for null by name in it. -/
structure Query.NamesNulls (query : Query) (condition : Option (List Token)) : Prop where
  unbound : .null ∉ values (condition.getD [])
  named : ∀ node ∈ query.preorder, node.filter.NamesNulls node.table.name (condition.getD [])

/-- The clauses of filters bind no null when they are joined. -/
theorem null_not_mem_conjunction {nodes : List QueryNode} {own : List (List Clause)}
    (compiled : Forall₂ (fun node clauses => node.filter.compile node.table = .ok clauses) nodes own) :
    .null ∉ (Clause.conjunction own.flatten).params := by
  induction compiled with
  | nil => exact List.not_mem_nil
  | @cons node clauses nodes own here _ ih =>
    have first := Filter.null_not_mem_params here
    rw [Clause.conjunction, Fragment.params_join] at first ih ⊢
    rw [List.flatten_cons, fragments_append, List.flatMap_append]
    exact fun inside => (List.mem_append.1 inside).elim first ih

/-- **A query that compiles names its nulls**, at any depth of its filters and of its nodes. -/
theorem Query.namesNulls_of_compile {query : Query} {select : Select}
    (compiled : query.compile = .ok select) {tokens : List Token}
    (read : tokens? select.fragment.text select.fragment.params = some tokens) :
    query.NamesNulls (condition? tokens) := by
  obtain ⟨own, clauses, filters⟩ := compile_filters compiled
  obtain ⟨condition, asked, plain, -⟩ := conjunction_tells filters
  have unbound := null_not_mem_conjunction filters
  rw [asked.params_eq] at unbound
  have written := asked.unique (Clause.tells_conjunction own.flatten)
  rw [← clauses] at asked
  have found := select.condition?_eq plain
  rw [← Option.some.inj ((select.tells asked).tokens?_eq.symm.trans read)]
  have whole : (if select.clauses.isEmpty then none else some condition).getD [] = condition := by
    split
    · rename_i empty
      rw [List.isEmpty_iff.1 empty] at asked
      exact asked.eq_nil.symm
    · rfl
  rw [← found] at whole
  refine ⟨whole.symm ▸ unbound, fun node inside => ?_⟩
  obtain ⟨mine, among, filtered⟩ := exists_of_forall₂ filters.flip inside
  rw [whole, written]
  exact Filter.namesNulls_of_compile filtered fun clause own => List.mem_flatten_of_mem among own

/-! ### Statements -/

/-- What a statement asks of the rows that it changes, deletes or copies. -/
def Sql.Written.condition : Written → Option (List Token)
  | .insert .. => none
  | .insertQuery _ _ query => condition? query
  | .update _ _ condition | .delete _ condition => condition

/-- The request is to match a row by a primary key of which a column is null. -/
def Request.MatchesNull (request : Request) : Prop :=
  ∃ kind row, request.task = .row kind row ∧ kind.insertsValues = false ∧
    ∃ entry ∈ row.entries, request.table.isPrimaryKey entry.1 ∧ entry.2 = .null

/-- The filters of a request ask for null by name. -/
def Request.NamesNulls (request : Request) (condition : Option (List Token)) : Prop :=
  match request.task with
  | .row _ _ => True
  | .setUpdate _ filter | .setDelete filter =>
    filter.NamesNulls request.table.name (condition.getD [])
  | .setInsert _ source => source.NamesNulls condition

/-- A condition binds null exactly if a key is matched by null, and filters ask for null by name. -/
structure Request.AsksNulls (request : Request) (condition : Option (List Token)) : Prop where
  bound : .null ∈ values (condition.getD []) ↔ request.MatchesNull
  named : request.NamesNulls condition

/-- The tokens of a compiled filter ask for null by name and bind none. -/
theorem Filter.namesNulls_tells {table : Table} {filter : Filter} {clauses : List Clause}
    (compiled : filter.compile table = .ok clauses) :
    ∃ condition, (Clause.conjunction clauses).Tells condition ∧
      .null ∉ Sql.values ((if clauses = [] then none else some condition).getD []) ∧
      filter.NamesNulls table.name ((if clauses = [] then none else some condition).getD []) := by
  have tells := Clause.tells_conjunction clauses
  have whole : (if clauses = [] then none
      else some ([Token.symbol "AND"].intercalate (Clause.tokensEach clauses))).getD [] =
        [Token.symbol "AND"].intercalate (Clause.tokensEach clauses) := by
    split
    · rename_i empty
      rw [empty]
      rfl
    · rfl
  refine ⟨_, tells, ?_, ?_⟩
  · rw [whole, ← tells.params_eq]
    exact null_not_mem_params compiled
  · rw [whole]
    exact namesNulls_of_compile compiled fun _ => id

section

variable {table : Table} {row : Row}

/-- The key of a row has a null exactly if the row has one in a column of the key. -/
theorem null_mem_key_iff : .null ∈ (KeyedRow.ofRow table row).key.map Prod.snd ↔
    ∃ entry ∈ row.entries, table.isPrimaryKey entry.1 ∧ entry.2 = .null := by
  simp only [KeyedRow.ofRow, List.mem_map, List.mem_filter]
  exact exists_congr fun entry => and_assoc

/-- A row that is matched by its key is matched by the nulls of the key. -/
theorem Request.asksNulls_keyed {kind : RowWrite} (matched : kind.insertsValues = false)
    {condition : List Token}
    (tells : (Write.keyMatch table.name (KeyedRow.ofRow table row).key).Tells condition) :
    AsksNulls ⟨table, .row kind row⟩ (some condition) where
  bound := by
    rw [Option.getD_some, ← tells.params_eq, Write.params_keyMatch, null_mem_key_iff]
    constructor
    · exact fun inside => ⟨kind, row, rfl, matched, inside⟩
    · rintro ⟨_, _, ⟨⟩, -, inside⟩
      exact inside
  named := trivial

end

/-- **The statement of a request binds null in its condition exactly if it matches a key by null.** -/
theorem Request.Makes.asksNulls {request : Request} {write : Write} (makes : request.Makes write) :
    ∃ written, (write.statement request.table.name).ReadAs written ∧
      request.AsksNulls written.condition := by
  have never {request : Request} (other : ∀ kind row, request.task = .row kind row → kind.insertsValues)
      {condition : Option (List Token)} (unbound : .null ∉ values (condition.getD [])) :
      .null ∈ values (condition.getD []) ↔ request.MatchesNull := by
    refine iff_of_false unbound ?_
    rintro ⟨kind, row, asked, matched, -⟩
    rw [other kind row asked] at matched
    cases matched
  cases makes with
  | @insertRow table kind row inserts =>
    refine ⟨_, Write.readAs_insertion _ inserts _, never ?_ List.not_mem_nil, trivial⟩
    rintro _ _ ⟨⟩
    exact inserts
  | updateRow =>
    obtain ⟨condition, tells, -⟩ := Write.tells_keyMatch _ _
    exact ⟨_, Write.readAs_update_of_tells _ _ tells, asksNulls_keyed rfl tells⟩
  | deleteRow =>
    obtain ⟨condition, tells, -⟩ := Write.tells_keyMatch _ _
    exact ⟨_, Write.readAs_delete_of_tells _ _ tells, asksNulls_keyed rfl tells⟩
  | setUpdate compiled =>
    obtain ⟨condition, tells, unbound, named⟩ := Filter.namesNulls_tells compiled
    exact ⟨_, Write.readAs_setUpdate _ _ tells, never (by rintro _ _ ⟨⟩) unbound, named⟩
  | setDelete compiled =>
    obtain ⟨condition, tells, unbound, named⟩ := Filter.namesNulls_tells compiled
    exact ⟨_, Write.readAs_setDelete _ tells, never (by rintro _ _ ⟨⟩) unbound, named⟩
  | setInsert compiled =>
    obtain ⟨query, read, whole⟩ := Write.readAs_setInsert _ _ compiled
    have named := Query.namesNulls_of_compile compiled read
    exact ⟨_, whole, never (by rintro _ _ ⟨⟩) named.unbound, named⟩

/-! ### Plans -/

namespace Mutation

/-- **Nulls are compared in keys only.** A query that builds binds no null in its condition and asks for
every null by name. The placeholder of a batch stands behind `VALUES`. Every other statement of a plan, and
every row of a batch, binds null in its condition exactly if it matches a row by a primary key with null. -/
theorem compile_nulls (query : Query) (mutation : Mutation) (batched : Bool) :
    (∀ built, query.build = .ok built →
      ∃ tokens, tokens? built.sql built.params = some tokens ∧ query.NamesNulls (condition? tokens)) ∧
    ∀ plan, mutation.compile batched = .ok plan →
      ∀ entry ∈ plan.tables,
        (∀ statement ∈ entry.statements, statement.isBatch →
          ∃ head tail, statement.sql = head ++ "VALUES ?" ++ tail ∧
            Neutral head.toList ∧ Neutral tail.toList) ∧
        Forall₂ (fun request statement => ∃ written, statement.ReadAs written ∧
            request.AsksNulls written.condition)
          (mutation.requestsTo entry.table) (entry.statements.flatMap Statement.separated) := by
  constructor
  · intro built compiled
    obtain ⟨select, ran, rfl⟩ := Query.build_eq_ok compiled
    have read := (select.tells (Clause.tells_conjunction select.clauses)).tokens?_eq
    exact ⟨_, read, Query.namesNulls_of_compile ran read⟩
  · intro plan compiled entry inside
    refine ⟨fun statement among isBatch => ?_,
      compile_statements compiled inside fun makes => makes.asksNulls⟩
    obtain ⟨table, writes, rfl⟩ := compile_mem_tables compiled inside
    obtain ⟨batch, rfl⟩ := Write.statements_batch among isBatch
    exact ⟨batch.head, batch.tail, batch.sql_eq, batch.neutral_head, batch.neutral_tail⟩

/-- Nulls deep inside a group, in a query that is copied from, in new values and in a batch, but in no
key. -/
theorem compile_nulls_songs :
    let songs : Table := ⟨"songs", [{ name := "id", type := .int, primaryKey := true },
      { name := "title", type := .varchar }]⟩
    let plays : Table := ⟨"plays", [{ name := "song", type := .int }]⟩
    let untitled : Filter := Filter.empty.or
      [Filter.empty.isNull "title", (Filter.empty.isNotNull "title").op "title" .lt "b"]
    let query : Query := (Query.ofTable songs).filter untitled
    let built : BoundText := ⟨"SELECT `songs`.`id`, `songs`.`title` FROM `songs` " ++
      "WHERE (`songs`.`title` IS NULL OR " ++
      "(`songs`.`title` IS NOT NULL AND `songs`.`title` < ?))", [.text "b"]⟩
    let song : Row := { entries := [("id", .int 1), ("title", .null)] }
    let mutation : Mutation := .node ⟨songs, .rows .update [song]⟩
      [("copied", Mutation.ofTable plays (.setInsert [] query)),
        ("played", Mutation.ofTable plays (.rows .insert [{ entries := [("song", .null)] }])),
        ("gone", Mutation.ofTable songs (.setDelete (Filter.empty.isNull "title")))]
    let plan : Plan := ⟨[
      ⟨"songs", false, [
        ⟨"UPDATE `songs` SET `title` = ? WHERE `songs`.`id` = ?",
          .values [.null, .int 1]⟩,
        ⟨"DELETE FROM `songs` WHERE `songs`.`title` IS NULL", .values []⟩]⟩,
      ⟨"plays", false, [
        ⟨"INSERT INTO `plays` (`song`) " ++ built.sql, .values built.params⟩,
        ⟨"INSERT INTO `plays` (`song`) VALUES ?", .rows [[.null]]⟩]⟩]⟩
    query.build = .ok built ∧
    (∃ tokens, tokens? built.sql built.params = some tokens ∧ query.NamesNulls (condition? tokens)) ∧
    mutation.compile true = .ok plan ∧
    ∀ entry ∈ plan.tables, Forall₂ (fun request statement => ∃ written, statement.ReadAs written ∧
        request.AsksNulls written.condition)
      (mutation.requestsTo entry.table) (entry.statements.flatMap Statement.separated) := by
  intro songs plays untitled query built song mutation plan
  have asked : query.build = .ok built := by decide +kernel
  have compiled : mutation.compile true = .ok plan := by decide +kernel
  obtain ⟨queries, plans⟩ := compile_nulls query mutation true
  exact ⟨asked, queries built asked, compiled, fun entry inside => (plans plan compiled entry inside).2⟩

/-- **A deletion that compares its key with null**, and so deletes nothing. -/
theorem compile_nulls_key :
    let table : Table := ⟨"t", [{ name := "id", type := .int, primaryKey := true }]⟩
    let row : Row := { entries := [("id", .null)] }
    let statement : Statement := ⟨"DELETE FROM `t` WHERE `t`.`id` = ?", .values [.null]⟩
    table.validate = .ok () ∧
    (Mutation.ofTable table (.rows .delete [row])).compile false = .ok ⟨[⟨"t", false, [statement]⟩]⟩ ∧
    ∃ condition, statement.ReadAs (.delete "t" (some condition)) ∧ .null ∈ values condition ∧
      ∃ predicate, Predicate.ofTokens? condition = some predicate ∧
        ∀ relation row, predicate.truth relation row = .unknown := by
  intro table row statement
  obtain ⟨condition, tells, stands⟩ := Write.tells_keyMatch "t" [("id", .null)]
  have read : statement.ReadAs (.delete "t" (some condition)) :=
    Write.readAs_delete_of_tells "t" (.ofRow table row) tells
  refine ⟨by decide +kernel, by decide +kernel, condition, read, ?_, _, stands, fun relation row => ?_⟩
  · rw [← tells.params_eq, Write.params_keyMatch]
    exact List.mem_cons_self
  · simp [Write.keyTests, Predicate.truth, Predicate.anyTruth, Predicate.allTruth, Relation.test,
      Relation.truth, Value.isNull]

end Mutation

end SqlCraft
