/-
**Batching: the same writes in fewer statements.**

A batch stands for one statement per row, with a tuple of placeholders in the place of its own. Taken
apart in this way, a plan with batches is the plan without. Batches are merged by their text alone, and
their text determines their fields, so the rows of a batch have one length.

* `Statement.separated` — a batch, row by row;
* `mergeBatches_cons` — what merging does with one more statement;
* `Batch` — rows for the fields of an insertion, closed under merging;
* `statements_separated`, `statements_batch`, `statements_isChain` — the statements for one table;
* `compile_statements` — the statements of a plan and the requests they are made for;
* `compile_batched` — the plan of a mutation.
-/

import Mathlib.Data.List.Chain
import SqlCraft.Mutation.Plan
import SqlCraft.Proofs.Compiled
import SqlCraft.Proofs.Mutation.Insertion
import SqlCraft.Proofs.Mutation.Request

namespace SqlCraft

open Sql

namespace Sql.Statement

/-- One statement per row for a batch, with a tuple of placeholders in the place of its own. -/
def separated (statement : Statement) : List Statement :=
  match statement.binding with
  | .values _ => [statement]
  | .rows rows =>
    rows.map fun row => ⟨fill ("(" ++ marks row.length ++ ")") statement.sql, .values row⟩

/-- Whether two statements are batches with one text. -/
def SameBatch (first second : Statement) : Prop :=
  first.isBatch ∧ second.isBatch ∧ first.sql = second.sql

theorem separated_rows_append (sql : String) (rows more : List (List Value)) :
    separated ⟨sql, .rows (rows ++ more)⟩ =
      separated ⟨sql, .rows rows⟩ ++ separated ⟨sql, .rows more⟩ :=
  List.map_append

theorem separated_of_not_isBatch {statement : Statement} (single : ¬ statement.isBatch) :
    statement.separated = [statement] := by
  obtain ⟨sql, binding⟩ := statement
  cases binding with
  | values params => rfl
  | rows rows => exact absurd rfl single

end Sql.Statement

open Statement (separated SameBatch)

/-- The plan of a table with its batches row by row. -/
def TablePlan.separated (plan : TablePlan) : TablePlan :=
  ⟨plan.table, plan.needsSeparate, plan.statements.flatMap Statement.separated⟩

/-- A plan with its batches row by row. -/
def Plan.separated (plan : Plan) : Plan := ⟨plan.tables.map TablePlan.separated⟩

namespace Write

/-! ### Merging -/

/-- **One more statement** either goes in front of the merged ones, or its rows go in front of the rows
of the first of them, which has the same text. -/
theorem mergeBatches_cons (statement : Statement) (rest : List Statement) :
    (mergeBatches (statement :: rest) = statement :: mergeBatches rest ∧
      ∀ next ∈ (mergeBatches rest).head?, ¬ SameBatch statement next) ∨
    ∃ sql rows more others, statement = ⟨sql, .rows rows⟩ ∧
      mergeBatches rest = ⟨sql, .rows more⟩ :: others ∧
      mergeBatches (statement :: rest) = ⟨sql, .rows (rows ++ more)⟩ :: others := by
  obtain ⟨sql, binding⟩ := statement
  rw [mergeBatches]
  cases binding with
  | values params => exact .inl ⟨rfl, fun _ _ same => Bool.noConfusion same.1⟩
  | rows rows =>
    cases mergeBatches rest with
    | nil => exact .inl ⟨rfl, fun next first => by cases first⟩
    | cons next others =>
      obtain ⟨text, binding⟩ := next
      cases binding with
      | values params =>
        refine .inl ⟨rfl, fun next first same => ?_⟩
        cases first
        exact Bool.noConfusion same.2.1
      | rows more =>
        by_cases equal : sql = text
        · subst equal
          exact .inr ⟨sql, rows, more, others, rfl, rfl, if_pos rfl⟩
        · refine .inl ⟨if_neg equal, fun next first same => ?_⟩
          cases first
          exact equal same.2.2

/-- **Merging loses no row and moves none.** -/
theorem mergeBatches_separated (statements : List Statement) :
    (mergeBatches statements).flatMap separated = statements.flatMap separated := by
  induction statements with
  | nil => rfl
  | cons statement rest ih =>
    obtain ⟨merged, -⟩ | ⟨sql, rows, more, others, rfl, found, merged⟩ :=
      mergeBatches_cons statement rest
    · rw [merged, List.flatMap_cons, ih, List.flatMap_cons]
    · rw [merged, List.flatMap_cons, Statement.separated_rows_append, List.append_assoc,
        ← List.flatMap_cons, ← found, ih, List.flatMap_cons]

/-- What holds of all statements holds of the merged ones, if it holds of two batches merged. -/
theorem mergeBatches_forall (holds : Statement → Prop) {statements : List Statement}
    (merges : ∀ sql rows more, holds ⟨sql, .rows rows⟩ → holds ⟨sql, .rows more⟩ →
      holds ⟨sql, .rows (rows ++ more)⟩)
    (all : ∀ statement ∈ statements, holds statement) :
    ∀ statement ∈ mergeBatches statements, holds statement := by
  induction statements with
  | nil => exact all
  | cons statement rest ih =>
    obtain ⟨first, later⟩ := List.forall_mem_cons.1 all
    have before := ih later
    obtain ⟨merged, -⟩ | ⟨sql, rows, more, others, rfl, found, merged⟩ :=
      mergeBatches_cons statement rest
    · rw [merged]
      exact List.forall_mem_cons.2 ⟨first, before⟩
    · rw [found, List.forall_mem_cons] at before
      rw [merged]
      exact List.forall_mem_cons.2 ⟨merges sql rows more first before.1, before.2⟩

/-- **Merged batches that are neighbours differ in their text.** -/
theorem mergeBatches_isChain (statements : List Statement) :
    (mergeBatches statements).IsChain fun first second => ¬ SameBatch first second := by
  induction statements with
  | nil => exact .nil
  | cons statement rest ih =>
    obtain ⟨merged, apart⟩ | ⟨sql, rows, more, others, rfl, found, merged⟩ :=
      mergeBatches_cons statement rest
    · rw [merged]
      exact List.isChain_cons.2 ⟨apart, ih⟩
    · rw [found, List.isChain_cons] at ih
      rw [merged, List.isChain_cons]
      exact ih

end Write

/-! ### Batches -/

/-- Rows for an insertion into a table, each with a value for every field of a pattern. -/
structure Batch (table : String) where
  kind : RowWrite
  pattern : KeyedRow
  rows : List (List Value)
  rows_ne_nil : rows ≠ []
  length_eq : ∀ row ∈ rows, row.length = pattern.fields.length

namespace Batch

variable {table : String}

/-- The insertion with its single placeholder. -/
def sql (batch : Batch table) : String :=
  (Write.insertion table batch.kind batch.pattern [.word "?"]).text

/-- The statement that binds the rows. -/
def statement (batch : Batch table) : Statement := ⟨batch.sql, .rows batch.rows⟩

/-- What stands before the values. -/
def head (batch : Batch table) : String := (Write.opening table batch.pattern.fields).text

/-- What stands behind the values. -/
def tail (batch : Batch table) : String :=
  (Write.onDuplicate table batch.kind batch.pattern).text

theorem sql_eq (batch : Batch table) : batch.sql = batch.head ++ "VALUES ?" ++ batch.tail := by
  have word : "VALUES ?" = "VALUES " ++ "?" := rfl
  rw [sql, Write.text_insertion, head, tail, word, ← String.append_assoc]
  simp only [Fragment.text_cons, Fragment.text_nil, Piece.text, String.append_empty]

theorem neutral_head (batch : Batch table) : Neutral batch.head.toList :=
  (Write.plain_opening table _).neutral (Write.params_opening table _)

theorem neutral_tail (batch : Batch table) : Neutral batch.tail.toList :=
  (Write.plain_onDuplicate table _ _).neutral (Write.params_onDuplicate table _ _)

/-- Filling the placeholder of a batch leaves everything else as it is. -/
theorem fill_sql (batch : Batch table) (filling : String) :
    fill filling batch.sql = batch.head ++ "VALUES " ++ filling ++ batch.tail := by
  have word : batch.head ++ "VALUES ?" = batch.head ++ "VALUES " ++ "?" := by
    rw [String.append_assoc]
    rfl
  have before : Neutral (batch.head ++ "VALUES ").toList := by
    rw [String.toList_append]
    exact batch.neutral_head.append (by decide)
  rw [sql_eq, word, fill_between before]

/-- The batch of a single row. -/
def ofRow (table : String) (kind : RowWrite) (row : KeyedRow) : Batch table where
  kind := kind
  pattern := row
  rows := [row.values]
  rows_ne_nil := List.cons_ne_nil _ _
  length_eq := by simp [KeyedRow.values, KeyedRow.fields]

/-- Two batches with one text as one batch. -/
def merge (first second : Batch table) (same : first.sql = second.sql) : Batch table where
  kind := first.kind
  pattern := first.pattern
  rows := first.rows ++ second.rows
  rows_ne_nil := List.append_ne_nil_of_left_ne_nil first.rows_ne_nil _
  length_eq := by
    intro row inside
    rcases List.mem_append.1 inside with before | behind
    · exact first.length_eq row before
    · rw [second.length_eq row behind, Write.text_insertion_inj same]

/-- A statement for one row is what separates its batch. -/
theorem separated_ofRow (kind : RowWrite) (row : KeyedRow) :
    (ofRow table kind row).statement.separated =
      [.ofFragment (Write.insertion table kind row (Write.tuple row.values))] := by
  have filled := (ofRow table kind row).fill_sql (Write.tuple row.values).text
  rw [head, tail, ofRow, ← Write.text_insertion, Write.text_tuple] at filled
  have bound : (Write.insertion table kind row (Write.tuple row.values)).params = row.values := by
    rw [Write.params_insertion, Write.params_tuple]
  rw [Statement.ofFragment, bound, ← filled]
  rfl

end Batch

namespace Write

/-! ### The statements of one table -/

/-- A write as a statement that may be merged. -/
def batched (table : String) (write : Write) : Statement :=
  (write.batch? table).getD (write.statement table)

theorem batched_row {table : String} {kind : RowWrite} (inserts : kind.insertsValues)
    (row : KeyedRow) : (Write.row kind row).batched table = (Batch.ofRow table kind row).statement := by
  rw [batched, batch?, if_pos inserts]
  rfl

theorem separated_batched (table : String) (write : Write) :
    (write.batched table).separated = [write.statement table] := by
  cases write with
  | row kind row =>
    cases kind with
    | insert | upsert | addUpsert => rw [batched_row rfl, Batch.separated_ofRow]; rfl
    | update | delete => rfl
  | update | delete | insertSelect => rfl

/-- Every batch that a write makes is well-formed. -/
theorem batch_of_batched {table : String} {write : Write} (batch : (write.batched table).isBatch) :
    ∃ batch : Batch table, batch.statement = write.batched table := by
  cases write with
  | row kind row =>
    cases kind with
    | insert | upsert | addUpsert => exact ⟨.ofRow table _ row, (batched_row rfl row).symm⟩
    | update | delete => exact Bool.noConfusion batch
  | update | delete | insertSelect => exact Bool.noConfusion batch

theorem not_isBatch_statement (table : String) (write : Write) : ¬ (write.statement table).isBatch :=
  Bool.noConfusion

/-- **Taken apart, the statements of the writes are what they are without batching.** -/
theorem statements_separated (table : String) (batching : Bool) (writes : List Write) :
    (statements table batching writes).flatMap separated = writes.map (statement table) := by
  have single {batched : Write → Statement}
      (same : ∀ write, (batched write).separated = [statement table write]) :
      (writes.map batched).flatMap separated = writes.map (statement table) := by
    rw [List.flatMap_map, List.map_eq_flatMap]
    exact List.flatMap_congr fun write _ => same write
  unfold statements
  split
  · rw [mergeBatches_separated]
    exact single (separated_batched table)
  · exact single fun write =>
      Statement.separated_of_not_isBatch (not_isBatch_statement table write)

/-- **Every batch has rows, and one value per field in each.** -/
theorem statements_batch {table : String} {batching : Bool} {writes : List Write}
    {statement : Statement} (inside : statement ∈ statements table batching writes)
    (batch : statement.isBatch) : ∃ batch : Batch table, batch.statement = statement := by
  unfold statements at inside
  split at inside
  · refine mergeBatches_forall
      (fun statement => statement.isBatch → ∃ batch : Batch table, batch.statement = statement)
      ?_ ?_ statement inside batch
    · intro sql rows more before behind _
      obtain ⟨first, equal⟩ := before rfl
      obtain ⟨second, equalToo⟩ := behind rfl
      cases equal
      obtain ⟨same, bound⟩ := Statement.mk.inj equalToo
      cases bound
      exact ⟨first.merge second same.symm, rfl⟩
    · intro statement within batch
      obtain ⟨write, -, rfl⟩ := List.mem_map.1 within
      exact batch_of_batched batch
  · obtain ⟨write, -, rfl⟩ := List.mem_map.1 inside
    exact absurd batch (not_isBatch_statement table write)

/-- Where rows differ in their fields, nothing is batched. -/
theorem statements_needSeparate {table : String} {batching : Bool} {writes : List Write}
    (separate : needSeparate writes) {statement : Statement}
    (inside : statement ∈ statements table batching writes) : ¬ statement.isBatch := by
  rw [statements, separate, Bool.not_true, Bool.and_false] at inside
  obtain ⟨write, -, rfl⟩ := List.mem_map.1 inside
  exact not_isBatch_statement table write

theorem statements_isChain (table : String) (batching : Bool) (writes : List Write) :
    (statements table batching writes).IsChain fun first second => ¬ SameBatch first second := by
  unfold statements
  split
  · exact mergeBatches_isChain _
  · refine (List.pairwise_of_forall_mem_list fun first inside _ _ same => ?_).isChain
    obtain ⟨write, -, rfl⟩ := List.mem_map.1 inside
    exact not_isBatch_statement table write same.1

end Write

/-! ### The plan of a mutation -/

/-- What the batches of a table are like. -/
structure TablePlan.WellBatched (plan : TablePlan) : Prop where
  /-- Where rows differ in their fields, there are none. -/
  separate : plan.needsSeparate → ∀ statement ∈ plan.statements, ¬ statement.isBatch
  /-- They have rows of one length, and one placeholder outside of quoted names. -/
  shape : ∀ statement ∈ plan.statements, ∀ rows, statement.binding = .rows rows →
    rows ≠ [] ∧ (∃ width, ∀ row ∈ rows, row.length = width) ∧
      ∃ head tail, statement.sql = head ++ "VALUES ?" ++ tail ∧
        Neutral head.toList ∧ Neutral tail.toList
  /-- Neighbours differ in their text. -/
  isChain : plan.statements.IsChain fun first second => ¬ SameBatch first second

theorem Write.tablePlan_wellBatched (batching : Bool) (table : String) (writes : List Write) :
    (tablePlan batching table writes).WellBatched where
  separate := fun separate _ inside => statements_needSeparate separate inside
  shape := by
    rintro ⟨sql, _⟩ inside rows rfl
    obtain ⟨batch, same⟩ := statements_batch inside rfl
    cases same
    exact ⟨batch.rows_ne_nil, ⟨_, batch.length_eq⟩, batch.head, batch.tail, batch.sql_eq,
      batch.neutral_head, batch.neutral_tail⟩
  isChain := statements_isChain table batching writes

theorem Write.tablePlan_separated (table : String) (writes : List Write) :
    (tablePlan true table writes).separated = tablePlan false table writes := by
  rw [TablePlan.separated, tablePlan, statements_separated]
  rfl

namespace Mutation

/-- The tables of a plan have the writes that were gathered for them. -/
theorem compile_mem_tables {mutation : Mutation} {batched : Bool} {plan : Plan} {entry : TablePlan}
    (compiled : mutation.compile batched = .ok plan) (inside : entry ∈ plan.tables) :
    ∃ table writes, Write.tablePlan batched table writes = entry := by
  obtain ⟨visited, -, rfl⟩ := map_eq_ok compiled
  obtain ⟨gathered, -, same⟩ := List.mem_map.1 inside
  exact ⟨gathered.1, gathered.2, same⟩

/-- **What holds of the writes that requests make holds of the statements of a plan**, taken apart and in
the order of the requests. -/
theorem compile_statements {mutation : Mutation} {batched : Bool} {plan : Plan} {entry : TablePlan}
    (compiled : mutation.compile batched = .ok plan) (inside : entry ∈ plan.tables)
    {Holds : Request → Statement → Prop}
    (each : ∀ {request : Request} {write : Write}, request.Makes write →
      Holds request (write.statement request.table.name)) :
    List.Forall₂ Holds (mutation.requestsTo entry.table)
      (entry.statements.flatMap Statement.separated) := by
  obtain ⟨writes, same, makes⟩ := (compile_requests compiled).2.2 entry inside
  have made : entry.statements = Write.statements entry.table batched writes := by rw [same]; rfl
  rw [made, Write.statements_separated, List.forall₂_map_right_iff]
  refine makes.imp fun request write ⟨table, makes⟩ => ?_
  rw [← table]
  exact each makes

/-- **Batching only gathers rows.** With batching a mutation is refused for the same reason as without,
or gets a plan that is the other one when its batches are taken apart. -/
theorem compile_batched (mutation : Mutation) :
    (mutation.compile true).map Plan.separated = mutation.compile false ∧
      ∀ plan, mutation.compile true = .ok plan → ∀ entry ∈ plan.tables, entry.WellBatched := by
  constructor
  · rw [compile, compile]
    cases visitedWrites mutation with
    | error offence => rfl
    | ok visited =>
      simp only [Except.map, Plan.separated, List.map_map, Function.comp_def,
        Write.tablePlan_separated]
  · intro plan compiled entry inside
    obtain ⟨table, writes, rfl⟩ := compile_mem_tables compiled inside
    exact Write.tablePlan_wellBatched true table writes

/-- The rows of a node and of the node below it make one batch. -/
theorem compile_batched_nested :
    let songs : Table := ⟨"songs", [{ name := "id", type := .int, primaryKey := true }]⟩
    let mutation : Mutation := .node ⟨songs, .rows .insert [{ entries := [("id", .int 1)] }]⟩
      [("more", Mutation.ofTable songs (.rows .insert [{ entries := [("id", .int 2)] }]))]
    let batch : Statement :=
      ⟨"INSERT INTO \x60songs\x60 (\x60id\x60) VALUES ?", .rows [[.int 1], [.int 2]]⟩
    let plan : Plan := ⟨[⟨"songs", false, [batch]⟩]⟩
    mutation.compile true = .ok plan ∧ mutation.compile false = .ok plan.separated ∧
      ∀ entry ∈ plan.tables, entry.WellBatched := by
  intro songs mutation batch plan
  have compiled : mutation.compile true = .ok plan := by decide +kernel
  obtain ⟨separates, sound⟩ := compile_batched mutation
  refine ⟨compiled, ?_, sound plan compiled⟩
  rw [← separates, compiled]
  rfl

end Mutation

end SqlCraft
