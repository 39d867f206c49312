/-
**What a mutation asks for, and the writes it gets.**

A node asks for one write per data row, or for one in all. A plan has one entry for each table that is
asked for, and in it one write per request, in the order of the requests.

* `Mutation.requests` — what the nodes ask for, in pre-order;
* `Request.Makes` — the write that a request becomes, with what was checked on the way;
* `MutationNode.writes_forall₂` — the requests of a node and its writes;
* `Mutation.compile_requests` — the requests and the writes of a plan.
-/

import SqlCraft.Mutation.Plan
import SqlCraft.Proofs.Compiled
import SqlCraft.Proofs.Mention

namespace SqlCraft

open List (Forall₂)

/-! ### Requests -/

/-- What is asked for at once. -/
inductive Task where
  | row (kind : RowWrite) (row : Row)
  | setUpdate (assignments : Row) (filter : Filter)
  | setDelete (filter : Filter)
  | setInsert (columns : List String) (source : Query)

/-- The tasks of an operation. -/
def MutationOp.tasks : MutationOp → List Task
  | .rows kind list => list.map (.row kind)
  | .setUpdate assignments filter => [.setUpdate assignments filter]
  | .setDelete filter => [.setDelete filter]
  | .setInsert columns source => [.setInsert columns source]

/-- A task on a table. -/
structure Request where
  table : Table
  task : Task

/-- What a node asks for. -/
def MutationNode.requests (node : MutationNode) : List Request :=
  node.op.tasks.map fun task => ⟨node.table, task⟩

namespace Mutation

/-- What the nodes ask for, in pre-order. -/
def requests (mutation : Mutation) : List Request :=
  mutation.preorder.flatMap MutationNode.requests

/-- What is asked for on tables of the given name. -/
def requestsTo (mutation : Mutation) (table : String) : List Request :=
  mutation.requests.filter fun request => request.table.name == table

end Mutation

/-- A write is what a request becomes. -/
inductive Request.Makes : Request → Write → Prop
  | insertRow {table : Table} {kind : RowWrite} {row : Row} (inserts : kind.insertsValues) :
    Makes ⟨table, .row kind row⟩ (.row kind (.ofRow table row))
  | updateRow {table : Table} {row : Row}
    (complete : (KeyedRow.ofRow table row).hasKey table.primaryKey)
    (more : (KeyedRow.ofRow table row).others ≠ []) :
    Makes ⟨table, .row .update row⟩ (.row .update (.ofRow table row))
  | deleteRow {table : Table} {row : Row}
    (complete : (KeyedRow.ofRow table row).hasKey table.primaryKey)
    (only : (KeyedRow.ofRow table row).others = []) :
    Makes ⟨table, .row .delete row⟩ (.row .delete (.ofRow table row))
  | setUpdate {table : Table} {assignments : Row} {filter : Filter} {clauses : List Clause}
    (compiled : filter.compile table = .ok clauses) :
    Makes ⟨table, .setUpdate assignments filter⟩ (.update assignments.entries clauses)
  | setDelete {table : Table} {filter : Filter} {clauses : List Clause}
    (compiled : filter.compile table = .ok clauses) :
    Makes ⟨table, .setDelete filter⟩ (.delete clauses)
  | setInsert {table : Table} {columns : List String} {source : Query} {select : Select}
    (compiled : source.compile = .ok select) :
    Makes ⟨table, .setInsert columns source⟩
      (.insertSelect (if columns.isEmpty then table.columnNames else columns) select)

/-! ### The writes of a node -/

namespace MutationNode

/-- A row that is not inserted has the whole key, and others to update or none to delete. -/
theorem hasKey_of_requireKey {table : Table} {kind : RowWrite} {row : KeyedRow}
    (required : requireKey table kind row = .ok ()) (matched : kind.insertsValues = false) :
    row.hasKey table.primaryKey ∧ (kind = .update → row.others ≠ []) ∧
      (kind = .delete → row.others = []) := by
  rw [requireKey, if_neg (by simp [matched])] at required
  by_cases complete : row.hasKey table.primaryKey
  · rw [if_neg (by simp [complete])] at required
    refine ⟨complete, fun updates none => ?_, fun deletes => ?_⟩
    · rw [if_pos ⟨updates, none⟩] at required
      cases required
    · by_contra more
      rw [if_neg (by simp [deletes]), if_pos ⟨deletes, more⟩] at required
      cases required
  · rw [if_pos (by simp [complete])] at required
    cases required

/-- A data row becomes a write with the row's own fields. -/
theorem makes_of_rowWrite {table : Table} {kind : RowWrite} {row : Row} {write : Write}
    (compiled : rowWrite table kind row = .ok write) :
    Request.Makes ⟨table, .row kind row⟩ write := by
  unfold rowWrite at compiled
  by_cases empty : row.isEmpty
  · rw [if_pos empty] at compiled
    cases compiled
  rw [if_neg empty] at compiled
  obtain ⟨_, _, compiled⟩ := bind_eq_ok compiled
  obtain ⟨_, required, compiled⟩ := bind_eq_ok compiled
  cases compiled
  cases kind with
  | insert | upsert | addUpsert => exact .insertRow rfl
  | update =>
    obtain ⟨complete, more, -⟩ := hasKey_of_requireKey required rfl
    exact .updateRow complete (more rfl)
  | delete =>
    obtain ⟨complete, -, only⟩ := hasKey_of_requireKey required rfl
    exact .deleteRow complete (only rfl)

/-- **A node has one write per request**, in order. -/
theorem writes_forall₂ {node : MutationNode} {writes : List Write}
    (compiled : node.writes = .ok writes) : Forall₂ Request.Makes node.requests writes := by
  obtain ⟨table, op⟩ := node
  cases op with
  | rows kind rows =>
    rw [requests, MutationOp.tasks, List.map_map, List.forall₂_map_left_iff]
    exact (mapM_eq_ok compiled).imp fun _ _ => makes_of_rowWrite
  | setUpdate assignments filter =>
    simp only [MutationNode.writes] at compiled
    by_cases empty : assignments.isEmpty
    · rw [if_pos empty] at compiled
      cases compiled
    rw [if_neg empty] at compiled
    obtain ⟨_, _, compiled⟩ := bind_eq_ok compiled
    obtain ⟨clauses, filtered, compiled⟩ := bind_eq_ok compiled
    cases compiled
    exact .cons (.setUpdate filtered) .nil
  | setDelete filter =>
    obtain ⟨clauses, filtered, compiled⟩ := bind_eq_ok compiled
    cases compiled
    exact .cons (.setDelete filtered) .nil
  | setInsert columns source =>
    obtain ⟨_, _, compiled⟩ := bind_eq_ok compiled
    obtain ⟨select, selected, compiled⟩ := bind_eq_ok compiled
    cases compiled
    exact .cons (.setInsert selected) .nil

end MutationNode

/-! ### The writes of a plan -/

namespace Mutation

/-- The nodes of a mutation have their writes. -/
theorem visitedWrites_forall₂ {mutation : Mutation} {visited : List (String × List Write)}
    (compiled : mutation.visitedWrites = .ok visited) :
    Forall₂ (fun node entry => entry.1 = node.table.name ∧
      Forall₂ Request.Makes node.requests entry.2) mutation.preorder visited := by
  refine (mapM_eq_ok compiled).imp fun node entry made => ?_
  obtain ⟨writes, ran, rfl⟩ := map_eq_ok made
  exact ⟨rfl, MutationNode.writes_forall₂ ran⟩

/-- The requests on a table make the writes that are gathered for it. -/
theorem requestsTo_forall₂ {mutation : Mutation} {visited : List (String × List Write)}
    (compiled : mutation.visitedWrites = .ok visited) (table : String) :
    Forall₂ Request.Makes (mutation.requestsTo table)
      ((visited.filter fun entry => entry.1 == table).flatMap Prod.snd) := by
  have nodes := visitedWrites_forall₂ compiled
  unfold requestsTo requests
  clear compiled
  generalize mutation.preorder = preorder at nodes
  induction nodes with
  | nil => exact .nil
  | @cons node entry preorder visited here _ ih =>
    obtain ⟨name, made⟩ := here
    rw [List.flatMap_cons, List.filter_append]
    by_cases same : node.table.name = table
    · have all : node.requests.filter (fun request => request.table.name == table) = node.requests :=
        List.filter_eq_self.2 fun request inside => by
          obtain ⟨task, -, rfl⟩ := List.mem_map.1 inside
          exact beq_iff_eq.2 same
      rw [all, List.filter_cons_of_pos (by simp [name, same]), List.flatMap_cons]
      exact List.rel_append made ih
    · have none : node.requests.filter (fun request => request.table.name == table) = [] :=
        List.filter_eq_nil_iff.2 fun request inside => by
          obtain ⟨task, -, rfl⟩ := List.mem_map.1 inside
          exact fun equal => same (beq_iff_eq.1 equal)
      rw [none, List.filter_cons_of_neg (by simp [name, same])]
      exact ih

/-- Gathered for a table are the writes of all its nodes, if there are any. -/
theorem mem_gather {visited : List (String × List Write)} {table : String} {writes : List Write} :
    (table, writes) ∈ gather visited ↔
      writes ≠ [] ∧ (visited.filter fun entry => entry.1 == table).flatMap Prod.snd = writes := by
  simp only [gather, List.mem_filter, List.mem_map, List.mem_eraseDups, Prod.mk.injEq,
    Bool.not_eq_true', List.isEmpty_eq_false_iff]
  constructor
  · rintro ⟨⟨_, -, rfl, gathered⟩, some⟩
    exact ⟨some, gathered⟩
  · rintro ⟨some, gathered⟩
    refine ⟨⟨table, ?_, rfl, gathered⟩, some⟩
    obtain ⟨write, inside⟩ := List.exists_mem_of_ne_nil writes some
    rw [← gathered] at inside
    obtain ⟨entry, among, -⟩ := List.mem_flatMap.1 inside
    obtain ⟨visits, same⟩ := List.mem_filter.1 among
    exact ⟨entry, visits, beq_iff_eq.1 same⟩

/-- Writes are gathered for tables in the order of their first mention. -/
theorem gather_sublist (visited : List (String × List Write)) :
    ((gather visited).map Prod.fst).Sublist (visited.map Prod.fst).eraseDups := by
  refine (List.filter_sublist.map Prod.fst).trans ?_
  rw [List.map_map]
  exact (List.map_id' _).symm ▸ List.Sublist.refl _

theorem nodup_gather (visited : List (String × List Write)) :
    ((gather visited).map Prod.fst).Nodup :=
  (nodup_eraseDups _).sublist (gather_sublist visited)

/-- **The requests and the writes of a plan.** Every table that is asked for has one entry, and this has
one write per request on the table, in the order of the requests. -/
theorem compile_requests {mutation : Mutation} {batched : Bool} {plan : Plan}
    (compiled : mutation.compile batched = .ok plan) :
    (plan.tables.map TablePlan.table).Nodup ∧
    (∀ request ∈ mutation.requests, ∃ entry ∈ plan.tables, entry.table = request.table.name) ∧
    ∀ entry ∈ plan.tables, ∃ writes, entry = Write.tablePlan batched entry.table writes ∧
      Forall₂ (fun request write => request.table.name = entry.table ∧ request.Makes write)
        (mutation.requestsTo entry.table) writes := by
  obtain ⟨visited, ran, rfl⟩ := map_eq_ok compiled
  refine ⟨?_, fun request asked => ?_, fun entry inside => ?_⟩
  · rw [List.map_map]
    exact nodup_gather visited
  · have made := requestsTo_forall₂ ran request.table.name
    have among : request ∈ mutation.requestsTo request.table.name :=
      List.mem_filter.2 ⟨asked, beq_self_eq_true _⟩
    refine ⟨_, List.mem_map_of_mem (mem_gather.2 ⟨fun none => ?_, rfl⟩), rfl⟩
    rw [none, List.forall₂_nil_right_iff] at made
    rw [made] at among
    exact List.not_mem_nil among
  · obtain ⟨⟨table, writes⟩, gathered, rfl⟩ := List.mem_map.1 inside
    obtain ⟨-, rfl⟩ := mem_gather.1 gathered
    refine ⟨_, rfl,
      (List.forall₂_and_left _ _).2 ⟨fun request asked => ?_, requestsTo_forall₂ ran table⟩⟩
    exact beq_iff_eq.1 (List.mem_filter.1 asked).2

end Mutation

end SqlCraft
