/-
**A plan groups the requests of a mutation by table, and keeps their order.**

Without batching each request has a statement, the one that it compiles to on its own. The plan has these
statements and no others: those of one table stand together, in the order of the requests, and the tables
stand in the order in which nodes first name them.

* `MutationNode.writes_becomes` — a node makes the writes that its requests make on their own;
* `Plan.Groups` — the plan of some items, grouped by table;
* `Mutation.compile_grouping` — the plan of a mutation.
-/

import SqlCraft.Proofs.Mutation.Collector
import SqlCraft.Proofs.Mutation.Request

namespace SqlCraft

open List (Forall₂)
open Sql (Statement)

/-! ### A request on its own -/

/-- The operation with only this task. -/
def Task.op : Task → MutationOp
  | .row kind data => .rows kind [data]
  | .setUpdate assignments filter => .setUpdate assignments filter
  | .setDelete filter => .setDelete filter
  | .setInsert columns source => .setInsert columns source

/-- The node with only this request. -/
def Request.node (request : Request) : MutationNode := ⟨request.table, request.task.op⟩

/-- A write is what a request makes on its own. -/
def Request.Becomes (request : Request) (write : Write) : Prop :=
  request.node.writes = .ok [write]

/-- A statement is what a request compiles to on its own. -/
def Request.HasStatement (request : Request) (statement : Statement) : Prop :=
  (Mutation.ofTable request.table request.task.op).compile false =
    .ok ⟨[⟨request.table.name, false, [statement]⟩]⟩

/-- **A node makes the writes that its requests make on their own.** -/
theorem MutationNode.writes_becomes {node : MutationNode} {writes : List Write}
    (compiled : node.writes = .ok writes) : Forall₂ Request.Becomes node.requests writes := by
  obtain ⟨table, op⟩ := node
  -- An operation that is not on rows is its only request.
  have single : ∀ task : Task, task.op = op → op.tasks = [task] →
      Forall₂ Request.Becomes (MutationNode.requests ⟨table, op⟩) writes := by
    rintro task rfl only
    have made := writes_forall₂ compiled
    rw [requests, only, List.map_singleton] at made ⊢
    cases made with
    | cons _ rest =>
      cases rest
      exact .cons compiled .nil
  cases op with
  | rows kind rows =>
    rw [requests, MutationOp.tasks, List.map_map, List.forall₂_map_left_iff]
    refine (mapM_eq_ok compiled).imp fun row write made => ?_
    show [row].mapM (rowWrite table kind) = .ok [write]
    rw [List.mapM_cons, made]
    rfl
  | setUpdate assignments filter => exact single (.setUpdate assignments filter) rfl rfl
  | setDelete filter => exact single (.setDelete filter) rfl rfl
  | setInsert columns source => exact single (.setInsert columns source) rfl rfl

/-- The write that a request makes on its own gives the statement that it has. -/
theorem Request.Becomes.hasStatement {request : Request} {write : Write}
    (becomes : request.Becomes write) :
    request.HasStatement (write.statement request.table.name) := by
  have visited : Mutation.visitedWrites (.ofTable request.table request.task.op) =
      .ok [(request.table.name, [write])] := by
    show [request.node].mapM _ = _
    rw [List.mapM_cons, becomes]
    rfl
  have gathered : Mutation.gather [(request.table.name, [write])] =
      [(request.table.name, [write])] := by
    simp [Mutation.gather, List.eraseDups_cons]
  rw [Request.HasStatement, Mutation.compile, visited, Except.map, gathered]
  rfl

/-! ### The plan -/

/-- The names of the tables of the nodes, in pre-order. -/
def Mutation.mentions (mutation : Mutation) : List String :=
  mutation.preorder.map fun node => node.table.name

/-- The plan of some items, each for a table, grouped by table. -/
structure Plan.Groups (plan : Plan) (mentions : List String) (items : List (String × Statement)) :
    Prop where
  /-- No table occurs twice. -/
  nodup : (plan.tables.map TablePlan.table).Nodup
  /-- The tables stand in the order of their first mention. -/
  ordered : (plan.tables.map TablePlan.table).Pairwise fun first second =>
    mentions.idxOf first < mentions.idxOf second
  /-- They are those with items. -/
  tables : ∀ table, table ∈ plan.tables.map TablePlan.table ↔ table ∈ items.map Prod.fst
  /-- Each has the statements of its items, in the order of the items. -/
  statements : ∀ entry ∈ plan.tables,
    entry.statements = (items.filter fun item => item.1 == entry.table).map Prod.snd
  /-- No statement is lost or doubled. -/
  perm : plan.statements.Perm (items.map Prod.snd)

/-- Groups with the right tables and statements lose and double none. -/
theorem Plan.perm_statements {plan : Plan} {items : List (String × Statement)}
    (nodup : (plan.tables.map TablePlan.table).Nodup)
    (tables : ∀ table, table ∈ plan.tables.map TablePlan.table ↔ table ∈ items.map Prod.fst)
    (statements : ∀ entry ∈ plan.tables,
      entry.statements = (items.filter fun item => item.1 == entry.table).map Prod.snd) :
    plan.statements.Perm (items.map Prod.snd) := by
  have grouped : plan.statements = ((plan.tables.map TablePlan.table).flatMap fun table =>
      items.filter fun item => item.1 == table).map Prod.snd := by
    rw [Plan.statements, List.flatMap_map, List.map_flatMap]
    exact List.flatMap_congr statements
  rw [grouped]
  exact (flatMap_filter_perm nodup fun item inside =>
    (tables item.1).2 (List.mem_map_of_mem inside)).map Prod.snd

namespace Mutation

/-- The statements of the writes of some nodes, with the names of their tables. -/
def items (visited : List (String × List Write)) : List (String × Statement) :=
  visited.flatMap fun entry => entry.2.map fun write => (entry.1, write.statement entry.1)

/-- The writes that are gathered for a table have its statements. -/
theorem filter_items (visited : List (String × List Write)) (table : String) :
    ((items visited).filter fun item => item.1 == table).map Prod.snd =
      ((visited.filter fun entry => entry.1 == table).flatMap Prod.snd).map
        (Write.statement table) := by
  induction visited with
  | nil => rfl
  | cons entry rest ih =>
    rw [items, List.flatMap_cons, ← items, List.filter_append, List.map_append, ih]
    by_cases same : entry.1 = table
    · rw [List.filter_cons_of_pos (by simp [same]), List.flatMap_cons, List.map_append,
        List.filter_eq_self.2 (by simp [same]), List.map_map, same]
      rfl
    · rw [List.filter_cons_of_neg (by simp [same]), List.filter_eq_nil_iff.2 (by simp [same])]
      rfl

/-- The requests of a mutation have its items as their statements. -/
theorem items_forall₂ {mutation : Mutation} {visited : List (String × List Write)}
    (compiled : mutation.visitedWrites = .ok visited) :
    Forall₂ (fun request item => item.1 = request.table.name ∧ request.HasStatement item.2)
      mutation.requests (items visited) := by
  refine List.rel_flatMap (mapM_eq_ok compiled) fun node entry made => ?_
  obtain ⟨writes, ran, rfl⟩ := map_eq_ok made
  rw [List.forall₂_map_right_iff]
  have own : ∀ request ∈ node.requests, request.table = node.table := fun request asked => by
    obtain ⟨task, -, rfl⟩ := List.mem_map.1 asked
    rfl
  refine ((List.forall₂_and_left _ _).2 ⟨own, MutationNode.writes_becomes ran⟩).imp ?_
  rintro request write ⟨table, becomes⟩
  rw [← table]
  exact ⟨rfl, becomes.hasStatement⟩

/-- Writes are gathered for the tables that have items. -/
theorem mem_map_gather (visited : List (String × List Write)) (table : String) :
    table ∈ (gather visited).map Prod.fst ↔ table ∈ (items visited).map Prod.fst := by
  have some : table ∈ (gather visited).map Prod.fst ↔
      (visited.filter fun entry => entry.1 == table).flatMap Prod.snd ≠ [] := by
    constructor
    · intro inside
      obtain ⟨⟨_, writes⟩, gathered, rfl⟩ := List.mem_map.1 inside
      obtain ⟨some, same⟩ := mem_gather.1 gathered
      exact same ▸ some
    · exact fun some => List.mem_map_of_mem (mem_gather.2 ⟨some, rfl⟩)
  have stated : (visited.filter fun entry => entry.1 == table).flatMap Prod.snd ≠ [] ↔
      (items visited).filter (fun item => item.1 == table) ≠ [] := by
    rw [ne_eq, ← List.map_eq_nil_iff (f := Write.statement table), ← filter_items,
      List.map_eq_nil_iff]
  rw [some, stated, ne_eq, List.filter_eq_nil_iff]
  simp

/-- The plan of gathered writes groups their items. -/
theorem groups_gather (visited : List (String × List Write)) :
    Plan.Groups ⟨(gather visited).map fun entry => Write.tablePlan false entry.1 entry.2⟩
      (visited.map Prod.fst) (items visited) := by
  have names : ((gather visited).map fun entry =>
      Write.tablePlan false entry.1 entry.2).map TablePlan.table = (gather visited).map Prod.fst := by
    rw [List.map_map]
    rfl
  have nodup := nodup_gather visited
  have ordered := (pairwise_idxOf_eraseDups (visited.map Prod.fst)).sublist (gather_sublist visited)
  have tables := mem_map_gather visited
  rw [← names] at nodup ordered tables
  have statements : ∀ entry ∈ (gather visited).map fun entry =>
      Write.tablePlan false entry.1 entry.2,
      entry.statements = ((items visited).filter fun item => item.1 == entry.table).map Prod.snd := by
    intro entry inside
    obtain ⟨⟨table, writes⟩, gathered, rfl⟩ := List.mem_map.1 inside
    obtain ⟨-, rfl⟩ := mem_gather.1 gathered
    exact (filter_items visited table).symm
  exact ⟨nodup, ordered, tables, statements, Plan.perm_statements nodup tables statements⟩

/-- **A plan groups the requests.** Without batching, a mutation that compiles has a plan of the statements
that its requests have on their own: table by table, the tables in the order in which nodes first name
them, and for each table in the order of the requests. It is what a walk over the nodes leaves behind that
puts each row to the batch of its table. -/
theorem compile_grouping {mutation : Mutation} {plan : Plan}
    (compiled : mutation.compile false = .ok plan) :
    mutation.emit false = .ok plan ∧ ∃ items : List (String × Statement),
      Forall₂ (fun request item => item.1 = request.table.name ∧ request.HasStatement item.2)
        mutation.requests items ∧
      plan.Groups mutation.mentions items ∧
      plan.statementCount = mutation.requests.length := by
  refine ⟨(mutation.emit_eq false).trans compiled, ?_⟩
  obtain ⟨visited, ran, rfl⟩ := map_eq_ok compiled
  have mentions : mutation.mentions = visited.map Prod.fst := by
    rw [Mutation.mentions, ← List.forall₂_eq_eq_eq, List.forall₂_map_left_iff,
      List.forall₂_map_right_iff]
    exact (visitedWrites_forall₂ ran).imp fun _ _ both => both.1.symm
  have requested := items_forall₂ ran
  have groups := groups_gather visited
  rw [← mentions] at groups
  refine ⟨items visited, requested, groups, ?_⟩
  rw [Plan.statementCount, groups.perm.length_eq, List.length_map, requested.length_eq]

/-- The first node names a table that only a later one writes to, and two branches write to another. -/
theorem compile_grouping_branches :
    let songs : Table := ⟨"songs", [{ name := "id", type := .int, primaryKey := true }]⟩
    let plays : Table := ⟨"plays", [{ name := "song", type := .int, primaryKey := true }]⟩
    let insert : Int64 → MutationOp := fun number =>
      .rows .insert [{ entries := [("song", .int number)], distinct := List.pairwise_singleton _ _ }]
    let mutation : Mutation := .node ⟨songs, .rows .insert []⟩
      [("old", .node ⟨plays, insert 1⟩
        [("song", Mutation.ofTable songs (.rows .delete [{ entries := [("id", .int 7)] }]))]),
       ("new", Mutation.ofTable plays (insert 2))]
    let insertion : Int64 → Statement := fun number =>
      ⟨"INSERT INTO \x60plays\x60 (\x60song\x60) VALUES (?)", .values [.int number]⟩
    let deletion : Statement :=
      ⟨"DELETE FROM \x60songs\x60 WHERE \x60songs\x60.\x60id\x60 = ?", .values [.int 7]⟩
    let plan : Plan :=
      ⟨[⟨"songs", false, [deletion]⟩, ⟨"plays", false, [insertion 1, insertion 2]⟩]⟩
    mutation.compile false = .ok plan ∧ mutation.emit false = .ok plan ∧
      ∃ items : List (String × Statement),
        Forall₂ (fun request item => item.1 = request.table.name ∧ request.HasStatement item.2)
          mutation.requests items ∧
        plan.Groups mutation.mentions items ∧
        plan.statementCount = mutation.requests.length := by
  intro songs plays insert mutation insertion deletion plan
  have compiled : mutation.compile false = .ok plan := by decide +kernel
  exact ⟨compiled, compile_grouping compiled⟩

end Mutation

end SqlCraft
