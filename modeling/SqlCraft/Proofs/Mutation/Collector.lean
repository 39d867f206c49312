/-
**Plans collected table by table.**

The plan of a mutation can be made on one walk over the tree, with one batch for each table in hand. A node
looks up the batch of its table, or opens one at the end, and puts its rows to it one after another. In a
batch two things are remembered besides the rows: the fields of the last row, none of them behind something
that is not a data row, and whether a row had other fields than the one directly before it. Batches without
rows are left out in the end. The statements of a batch are made one after another, too; a row joins the
statement made last if both have the same text.

The batches are those that are gathered from the nodes in pre-order:

* `TableBatch`, `inBatch`, `MutationNode.collect` — the batches, and what a node puts to them;
* `Mutation.emit` — the walk and the plan behind it;
* `inBatch_batchesOf`, `Mutation.walk_collect` — what one more node leaves behind, and what all do;
* `TableBatch.Collects` — what is remembered in a batch is right for the writes in it;
* `Write.attach_batched`, `Write.foldl_attach` — statements that are joined one after another are merged;
* `Mutation.emit_eq` — the walk gives the plan of the mutation, with the same offences.
-/

import SqlCraft.Proofs.Mutation.Batching
import SqlCraft.Proofs.Mutation.RowPlan
import SqlCraft.Proofs.Mutation.Separation

namespace SqlCraft

open Sql (Binding Statement)

/-! ### Batches -/

/-- What is collected for a table. -/
structure TableBatch where
  table : String
  /-- The fields of the last row, none if it is not a data row. -/
  last : List String := []
  /-- Whether a data row had other fields than the one directly before it. -/
  separate : Bool := false
  rows : List RowPlan := []

/-- One more row. -/
def TableBatch.put (batch : TableBatch) (row : RowPlan) : TableBatch :=
  match row.kind with
  | .row _ =>
    { batch with
      last := row.fields
      separate := batch.separate || (!batch.last.isEmpty && batch.last != row.fields)
      rows := batch.rows ++ [row] }
  | _ => { batch with last := [], rows := batch.rows ++ [row] }

/-- The batch of a table is changed where it is, or opened and changed at the end. -/
def inBatch (table : String) (change : TableBatch → TableBatch) : List TableBatch → List TableBatch
  | [] => [change { table }]
  | batch :: rest =>
    if batch.table = table then change batch :: rest else batch :: inBatch table change rest

/-- What a node puts to the batches. -/
def MutationNode.collect (batches : List TableBatch) (visit : Tree.Visit MutationNode) :
    Compiled (List TableBatch) :=
  let table := visit.label.table
  match visit.label.op with
  | .rows kind rows =>
    rows.foldlM (fun batches row => (planRow table kind row).map fun plan =>
      inBatch table.name (·.put plan) batches) (inBatch table.name id batches)
  | .setUpdate assignments filter =>
    if assignments.isEmpty then .error (.descriptor (.nothingToSet table.name))
    else do
      let plan ← assignments.entries.foldlM (fun plan entry => (table.require entry.1).map fun _ =>
        plan.put entry) ({ kind := .setUpdate } : RowPlan)
      let asked ← filter.emit table
      return inBatch table.name (·.put { plan with condition := some asked }) batches
  | .setDelete filter => do
    let asked ← filter.emit table
    return inBatch table.name (·.put { kind := .setDelete, condition := some asked }) batches
  | .setInsert columns source => do
    columns.forM table.require
    let built ← source.emit
    let fields := if columns.isEmpty then table.columnNames else columns
    return inBatch table.name (·.put { kind := .setInsert, fields, source := some built }) batches

/-! ### Statements -/

/-- Whether a row is written as a tuple of values. -/
def RowPlan.insertsValues (row : RowPlan) : Bool :=
  match row.kind with
  | .row kind => kind.insertsValues
  | _ => false

/-- One more statement. If it binds rows, and so does the last one with the same text, its rows go there. -/
def Write.attach (next : Statement) : List Statement → List Statement
  | [] => [next]
  | [last] =>
    match last.binding, next.binding with
    | .rows rows, .rows more =>
      if last.sql = next.sql then [⟨last.sql, .rows (rows ++ more)⟩] else [last, next]
    | _, _ => [last, next]
  | first :: second :: rest => first :: attach next (second :: rest)

namespace TableBatch

/-- The statements of a batch, made one after another. -/
def statements (batched : Bool) (batch : TableBatch) : List Statement :=
  batch.rows.foldl (fun statements row =>
    if (batched && !batch.separate) && row.insertsValues then
      Write.attach ⟨row.insertion batch.table "?", .rows [row.values]⟩ statements
    else statements ++ [row.statement batch.table]) []

/-- The plan of a batch. -/
def plan (batched : Bool) (batch : TableBatch) : TablePlan :=
  ⟨batch.table, batch.separate, batch.statements batched⟩

end TableBatch

/-- The plan of a mutation, collected on a walk. -/
def Mutation.emit (mutation : Mutation) (batched : Bool) : Compiled Plan :=
  (mutation.walk MutationNode.collect []).map fun batches =>
    ⟨(batches.filter fun batch => !batch.rows.isEmpty).map (TableBatch.plan batched)⟩

/-! ### What a node puts to the batches -/

namespace TableBatch

theorem put_table (batch : TableBatch) (row : RowPlan) : (batch.put row).table = batch.table := by
  unfold put
  split <;> rfl

/-- A batch with the rows of some writes. -/
def putAll (batch : TableBatch) (writes : List Write) : TableBatch :=
  writes.foldl (fun batch write => batch.put (.ofWrite write)) batch

theorem putAll_table (batch : TableBatch) (writes : List Write) :
    (batch.putAll writes).table = batch.table := by
  induction writes generalizing batch with
  | nil => rfl
  | cons write rest ih => exact (ih _).trans (batch.put_table _)

theorem putAll_append (batch : TableBatch) (first second : List Write) :
    batch.putAll (first ++ second) = (batch.putAll first).putAll second :=
  List.foldl_append

end TableBatch

/-- Changes of one batch, one after the other. -/
theorem inBatch_inBatch {table : String} {first second : TableBatch → TableBatch}
    (keeps : ∀ batch, (first batch).table = batch.table) (batches : List TableBatch) :
    inBatch table second (inBatch table first batches) =
      inBatch table (fun batch => second (first batch)) batches := by
  induction batches with
  | nil => simp [inBatch, keeps]
  | cons batch rest ih =>
    by_cases own : batch.table = table
    · simp [inBatch, own, keeps]
    · simp [inBatch, own, ih]

theorem foldl_inBatch (table : String) (writes : List Write) {change : TableBatch → TableBatch}
    (keeps : ∀ batch, (change batch).table = batch.table) (batches : List TableBatch) :
    writes.foldl (fun batches write => inBatch table (·.put (.ofWrite write)) batches)
        (inBatch table change batches) =
      inBatch table (fun batch => (change batch).putAll writes) batches := by
  induction writes generalizing change with
  | nil => rfl
  | cons write rest ih =>
    rw [List.foldl_cons, inBatch_inBatch keeps]
    exact ih fun batch => ((change batch).put_table _).trans (keeps batch)

/-- **A node puts its writes to the batch of its table.** -/
theorem MutationNode.collect_eq (batches : List TableBatch) (visit : Tree.Visit MutationNode) :
    collect batches visit = visit.label.writes.map fun writes =>
      inBatch visit.label.table.name (·.putAll writes) batches := by
  obtain ⟨above, table, op⟩ := visit
  unfold collect writes
  cases op with
  | rows kind rows =>
    have each (batches : List TableBatch) (row : Row) :
        ((planRow table kind row).map fun plan => inBatch table.name (·.put plan) batches) =
          (MutationNode.rowWrite table kind row).map fun write =>
            inBatch table.name (·.put (.ofWrite write)) batches := by
      rw [RowPlan.planRow_eq]
      cases MutationNode.rowWrite table kind row <;> rfl
    refine (foldlM_eq_map each rows _).trans (congrArg (fun put => Except.map put _) ?_)
    exact funext fun writes => foldl_inBatch table.name writes (fun _ => rfl) batches
  | setUpdate assignments filter =>
    dsimp only
    by_cases empty : assignments.isEmpty
    · rw [if_pos empty, if_pos empty]
      rfl
    · have written := RowPlan.foldlM_require table RowPlan.put assignments.entries { kind := .setUpdate }
      rw [if_neg empty, if_neg empty, written, RowPlan.foldl_put, Filter.emit_eq]
      exact map_bind_commutes fun _ => map_bind_commutes fun clauses => rfl
  | setDelete filter =>
    dsimp only
    rw [Filter.emit_eq]
    exact map_bind_commutes fun clauses => rfl
  | setInsert columns source =>
    dsimp only
    refine bind_commutes fun _ => ?_
    rw [Query.emit_eq, Query.build]
    refine map_bind_commutes fun select => ?_
    cases columns <;> rfl

/-! ### The batches of a walk -/

/-- What is collected for a table from some writes. -/
def TableBatch.ofWrites (table : String) (writes : List Write) : TableBatch :=
  TableBatch.putAll { table } writes

/-- The writes to a table among those of visited nodes. -/
def writesFor (table : String) (visited : List (String × List Write)) : List Write :=
  (visited.filter fun entry => entry.1 == table).flatMap Prod.snd

/-- The batches of visited nodes, in the order in which these first name their tables. -/
def batchesOf (visited : List (String × List Write)) : List TableBatch :=
  (visited.map Prod.fst).eraseDups.map fun table => .ofWrites table (writesFor table visited)

/-- Where the batches have distinct tables, one is changed or one is opened. -/
theorem inBatch_map {keys : List String} (nodup : keys.Nodup) (table : String)
    (change : TableBatch → TableBatch) {batch : String → TableBatch}
    (keyed : ∀ key, (batch key).table = key) :
    inBatch table change (keys.map batch) =
      if table ∈ keys then keys.map fun key => if key = table then change (batch key) else batch key
      else keys.map batch ++ [change { table }] := by
  induction keys with
  | nil => rfl
  | cons key rest ih =>
    obtain ⟨new, nodup⟩ := List.nodup_cons.1 nodup
    rw [List.map_cons, inBatch, keyed]
    by_cases own : key = table
    · subst own
      have others : (rest.map fun other => if other = key then change (batch other) else batch other) =
          rest.map batch :=
        List.map_congr_left fun other inside =>
          if_neg (fun same : other = key => new (same ▸ inside))
      rw [if_pos rfl, if_pos List.mem_cons_self, List.map_cons, if_pos rfl, others]
    · rw [if_neg own, ih nodup]
      by_cases inside : table ∈ rest
      · simp [inside, own]
      · simp [inside, Ne.symm own]

theorem writesFor_append_singleton (key table : String) (visited : List (String × List Write))
    (writes : List Write) : writesFor key (visited ++ [(table, writes)]) =
      writesFor key visited ++ if key = table then writes else [] := by
  rw [writesFor, List.filter_append, List.flatMap_append]
  by_cases own : key = table
  · simp [writesFor, own]
  · simp [writesFor, own, Ne.symm own]

/-- **One more node** puts its writes to the batch of its table, or opens one if none named the table. -/
theorem inBatch_batchesOf (visited : List (String × List Write)) (table : String)
    (writes : List Write) : inBatch table (·.putAll writes) (batchesOf visited) =
      batchesOf (visited ++ [(table, writes)]) := by
  have keyed (key : String) : (TableBatch.ofWrites key (writesFor key visited)).table = key :=
    TableBatch.putAll_table _ _
  rw [batchesOf, inBatch_map (nodup_eraseDups _) table _ keyed, batchesOf, List.map_append,
    List.map_singleton, eraseDups_append_singleton]
  simp only [writesFor_append_singleton]
  by_cases known : table ∈ (visited.map Prod.fst).eraseDups
  · rw [if_pos known, if_pos known]
    refine List.map_congr_left fun key _ => ?_
    by_cases own : key = table
    · rw [if_pos own, if_pos own, TableBatch.ofWrites, TableBatch.ofWrites, TableBatch.putAll_append]
    · rw [if_neg own, if_neg own, List.append_nil]
  · have unmentioned : writesFor table visited = [] := by
      rw [writesFor, List.filter_eq_nil_iff.2, List.flatMap_nil]
      intro entry inside same
      exact known (List.mem_eraseDups.2 (List.mem_map.2 ⟨entry, inside, beq_iff_eq.1 same⟩))
    rw [if_neg known, if_neg known, List.map_append, List.map_singleton, if_pos rfl, unmentioned,
      List.nil_append]
    refine congrArg (· ++ _) (List.map_congr_left fun key inside => ?_)
    have other : key ≠ table := fun same => known (same ▸ inside)
    rw [if_neg other, List.append_nil]

theorem foldl_batchesOf (visited : List (String × List Write)) :
    visited.foldl (fun batches entry => inBatch entry.1 (·.putAll entry.2) batches) [] =
      batchesOf visited := by
  induction visited using List.reverseRecOn with
  | nil => rfl
  | append_singleton visited entry ih => rw [List.foldl_concat, ih, inBatch_batchesOf]

/-- **The batches behind a walk are those of its nodes in pre-order.** -/
theorem Mutation.walk_collect (mutation : Mutation) :
    mutation.walk MutationNode.collect [] = mutation.visitedWrites.map batchesOf := by
  have each (batches : List TableBatch) (visit : Tree.Visit MutationNode) :
      MutationNode.collect batches visit =
        (visit.label.writes.map fun writes => (visit.label.table.name, writes)).map
          fun entry => inBatch entry.1 (·.putAll entry.2) batches := by
    rw [MutationNode.collect_eq]
    cases visit.label.writes <;> rfl
  rw [Tree.walk_eq_foldlM, foldlM_eq_map each, Mutation.visitedWrites, ← Tree.map_label_visits,
    List.mapM_map]
  exact congrArg (fun view => Except.map view _) (funext foldl_batchesOf)

/-! ### What is remembered in a batch -/

namespace Write

/-- The fields of a write that is a data row. -/
def rowFields : Write → List String
  | .row _ keyed => keyed.fields
  | _ => []

/-- A data row has fields. -/
def Filled : Write → Prop
  | .row _ keyed => keyed.fields ≠ []
  | _ => True

/-- Writes need separate statements if a data row has other fields than the one before it. -/
theorem needSeparate_append_singleton (writes : List Write) (next : Write) :
    needSeparate (writes ++ [next]) =
      (needSeparate writes || writes.getLast?.any fun last => fieldsDiffer last next) := by
  induction writes with
  | nil => rfl
  | cons first rest ih =>
    cases rest with
    | nil => simp [needSeparate]
    | cons second rest =>
      rw [List.cons_append, List.cons_append, needSeparate, ← List.cons_append, ih, needSeparate,
        Bool.or_assoc, List.getLast?_cons_cons]

theorem fieldsDiffer_row {last : Write} (filled : last.Filled) (kind : RowWrite) (row : KeyedRow) :
    fieldsDiffer last (.row kind row) =
      (!last.rowFields.isEmpty && last.rowFields != row.fields) := by
  cases last with
  | row _ before =>
    have some : before.fields.isEmpty = false := List.isEmpty_eq_false_iff.2 filled
    simp [fieldsDiffer, rowFields, some]
  | update | delete | insertSelect => rfl

end Write

namespace TableBatch

/-- What is in a batch is right for some writes. -/
structure Collects (batch : TableBatch) (writes : List Write) : Prop where
  rows : batch.rows = writes.map RowPlan.ofWrite
  last : batch.last = (writes.getLast?.map Write.rowFields).getD []
  separate : batch.separate = Write.needSeparate writes

/-- **One more write is collected rightly.** -/
theorem Collects.put {batch : TableBatch} {writes : List Write} (collects : batch.Collects writes)
    (filled : ∀ write ∈ writes, write.Filled) (next : Write) :
    (batch.put (.ofWrite next)).Collects (writes ++ [next]) := by
  have rows : batch.rows ++ [.ofWrite next] = (writes ++ [next]).map RowPlan.ofWrite := by
    rw [collects.rows, List.map_append, List.map_singleton]
  have last : next.rowFields = ((writes ++ [next]).getLast?.map Write.rowFields).getD [] := by
    rw [List.getLast?_concat]
    rfl
  have separate := Write.needSeparate_append_singleton writes next
  cases next with
  | row kind row =>
    refine ⟨rows, last, ?_⟩
    rw [separate, ← collects.separate]
    refine congrArg (batch.separate || ·) ?_
    rw [collects.last]
    cases found : writes.getLast? with
    | none => rfl
    | some before =>
      exact (Write.fieldsDiffer_row (filled before (List.mem_of_getLast? found)) kind row).symm
  | update | delete | insertSelect =>
    refine ⟨rows, last, ?_⟩
    rw [separate, ← collects.separate]
    cases writes.getLast? with
    | none => exact (Bool.or_false _).symm
    | some before => cases before <;> exact (Bool.or_false _).symm

theorem ofWrites_collects (table : String) {writes : List Write}
    (filled : ∀ write ∈ writes, write.Filled) : (ofWrites table writes).Collects writes := by
  induction writes using List.reverseRecOn with
  | nil => exact ⟨rfl, rfl, rfl⟩
  | append_singleton writes next ih =>
    have before : ∀ write ∈ writes, write.Filled :=
      fun write inside => filled write (List.mem_append_left _ inside)
    rw [ofWrites, putAll_append]
    exact (ih before).put before next

end TableBatch

/-! ### Statements one after another -/

namespace Write

/-- **One more statement to be merged** is attached to those that are merged. -/
theorem mergeBatches_append_singleton (statements : List Statement) (next : Statement) :
    mergeBatches (statements ++ [next]) = attach next (mergeBatches statements) := by
  induction statements with
  | nil => obtain ⟨text, _ | _⟩ := next <;> rfl
  | cons first rest ih =>
    rw [List.cons_append, mergeBatches, mergeBatches, ih]
    generalize mergeBatches rest = merged
    obtain ⟨sql, _ | rows⟩ := first
    · cases merged <;> rfl
    -- What comes first only looks at the second statement, what comes last only at the one before.
    cases merged with
    | nil =>
      obtain ⟨text, _ | more⟩ := next
      · rfl
      · by_cases same : sql = text <;> simp [attach, same]
    | cons second others =>
      obtain ⟨text, _ | more⟩ := second
      · cases others <;> rfl
      cases others with
      | nil =>
        obtain ⟨last, _ | further⟩ := next
        · by_cases same : sql = text <;> simp [attach, same]
        · rcases eq_or_ne text last with rfl | other
          · by_cases same : sql = text <;> simp [attach, same]
          · by_cases same : sql = text <;> simp [attach, same, other]
      | cons third others => by_cases same : sql = text <;> simp [attach, same]

theorem foldl_attach (statements : List Statement) :
    statements.foldl (fun merged next => attach next merged) [] = mergeBatches statements := by
  induction statements using List.reverseRecOn with
  | nil => rfl
  | append_singleton statements next ih =>
    rw [List.foldl_concat, ih, mergeBatches_append_singleton]

/-- A statement that binds no rows is attached at the end. -/
theorem attach_of_not_isBatch {next : Statement} (single : ¬ next.isBatch) (statements : List Statement) :
    attach next statements = statements ++ [next] := by
  obtain ⟨sql, params | rows⟩ := next
  · induction statements with
    | nil => rfl
    | cons first rest ih =>
      cases rest with
      | nil => simp [attach]
      | cons second rest => exact congrArg (first :: ·) ih
  · exact absurd rfl single

/-- A row that is put to the statements is its write as a statement that may be merged. -/
theorem attach_batched (table : String) (write : Write) (statements : List Statement) :
    (if (RowPlan.ofWrite write).insertsValues then
        attach ⟨(RowPlan.ofWrite write).insertion table "?", .rows [(RowPlan.ofWrite write).values]⟩
          statements
      else statements ++ [(RowPlan.ofWrite write).statement table]) =
      attach (write.batched table) statements := by
  have single (made : write.batched table = write.statement table) :
      statements ++ [(RowPlan.ofWrite write).statement table] =
        attach (write.batched table) statements := by
    rw [made, RowPlan.statement_eq, attach_of_not_isBatch (not_isBatch_statement table write)]
  cases write with
  | row kind row =>
    cases kind with
    | insert | upsert | addUpsert =>
      rw [batched_row rfl, Batch.statement, Batch.sql, ← RowPlan.insertion_eq]
      rfl
    | update | delete => exact single rfl
  | update | delete | insertSelect => exact single rfl

end Write

/-- **The statements of a batch are those of the writes in it.** -/
theorem TableBatch.Collects.statements_eq {batch : TableBatch} {writes : List Write}
    (collects : batch.Collects writes) (batched : Bool) :
    batch.statements batched = Write.statements batch.table batched writes := by
  rw [TableBatch.statements, Write.statements, collects.rows, collects.separate, List.foldl_map]
  by_cases merges : (batched && !Write.needSeparate writes) = true
  · rw [if_pos merges, ← Write.foldl_attach, List.foldl_map, merges]
    simp only [Bool.true_and]
    exact List.foldl_ext _ _ [] fun statements write _ =>
      Write.attach_batched batch.table write statements
  · rw [if_neg merges, eq_false_of_ne_true merges, List.map_eq_flatMap, List.flatMap_eq_foldl]
    simp [RowPlan.statement_eq]

/-! ### The plan -/

namespace MutationNode

theorem filled_writes {node : MutationNode} {writes : List Write} (compiled : node.writes = .ok writes) :
    ∀ write ∈ writes, write.Filled := by
  intro write inside
  obtain ⟨request, asked, made⟩ := exists_of_forall₂ (writes_forall₂ compiled) inside
  have filled := filled_of_writes compiled request asked
  cases made with
  | insertRow | updateRow | deleteRow => exact filled _ _ rfl
  | setUpdate | setDelete | setInsert => trivial

end MutationNode

namespace Mutation

theorem filled_writesFor {mutation : Mutation} {visited : List (String × List Write)}
    (compiled : mutation.visitedWrites = .ok visited) (table : String) :
    ∀ write ∈ writesFor table visited, write.Filled := by
  intro write inside
  obtain ⟨entry, among, own⟩ := List.mem_flatMap.1 inside
  obtain ⟨node, -, made⟩ := exists_of_forall₂ (mapM_eq_ok compiled) (List.mem_of_mem_filter among)
  obtain ⟨writes, ran, rfl⟩ := map_eq_ok made
  exact MutationNode.filled_writes ran write own

/-- **The plan that is collected on a walk is the plan of the mutation**, and the first refusal of the walk
is its offence. -/
theorem emit_eq (mutation : Mutation) (batched : Bool) :
    mutation.emit batched = mutation.compile batched := by
  rw [emit, compile, walk_collect]
  cases compiled : mutation.visitedWrites with
  | error offence => rfl
  | ok visited =>
    have collects (table : String) := TableBatch.ofWrites_collects table (filled_writesFor compiled table)
    have some (table : String) : (TableBatch.ofWrites table (writesFor table visited)).rows.isEmpty =
        (writesFor table visited).isEmpty := by
      rw [(collects table).rows, List.isEmpty_map]
    have planned (table : String) : (TableBatch.ofWrites table (writesFor table visited)).plan batched =
        Write.tablePlan batched table (writesFor table visited) := by
      rw [TableBatch.plan, (collects table).statements_eq, (collects table).separate,
        TableBatch.ofWrites, TableBatch.putAll_table]
      rfl
    refine congrArg (fun tables => Except.ok (Plan.mk tables)) ?_
    rw [batchesOf, gather, List.filter_map, List.map_map, List.filter_map, List.map_map]
    simp only [Function.comp_def, some, planned]
    rfl

end Mutation

end SqlCraft
