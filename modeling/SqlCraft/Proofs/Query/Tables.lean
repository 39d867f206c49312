/-
**The tables of a query, and the columns that refer to them.**

A query introduces the table of every node, in pre-order, each under its own name, and refers to columns
of these tables only. Every table but the first is referred to where it is joined. So each column belongs
to a single table exactly if the nodes have different tables.

* `Join.Relates` — a join introduces the included table, and equates a column of it with one of the
  table above;
* `Tree.above_visitsFrom` — the node above a node is one of the tree;
* `Query.compile_tables`, `Query.compile_columns` — the tables and the columns of a query;
* `Query.build_tables` — whether each column belongs to one table.
-/

import Mathlib.Data.List.Nodup
import SqlCraft.Proofs.Query.Columns
import SqlCraft.Proofs.Query.Parts
import SqlCraft.Table.Validity

namespace SqlCraft

open Sql
open List (Forall₂)

/-! ### The columns of a node -/

mutual

theorem Criterion.columns_compile (table : Table) : ∀ (criterion : Criterion) {clause : Clause},
    criterion.compile table = .ok clause → ∀ column ∈ clause.columns, column.table = table.name
  | .field name condition, clause, compiled => by
    rw [Criterion.compile] at compiled
    obtain ⟨_, _, compiled⟩ := bind_eq_ok compiled
    unfold Condition.compile at compiled
    split at compiled
    · cases compiled
    · obtain ⟨tests, -, rfl⟩ := map_eq_ok compiled
      intro column inside
      obtain ⟨_, -, here⟩ := List.mem_flatMap.1 inside
      rw [List.mem_singleton.1 here]
  | .group joiner [], clause, compiled => by
    rw [Criterion.compile] at compiled
    cases compiled
  | .group joiner (first :: rest), clause, compiled => by
    rw [Criterion.compile] at compiled
    obtain ⟨members, ran, rfl⟩ := map_eq_ok compiled
    exact columns_compileMembers table joiner (first :: rest) ran

theorem columns_compileCriteria (table : Table) : ∀ (criteria : List Criterion)
    {clauses : List Clause}, compileCriteria table criteria = .ok clauses →
    ∀ column ∈ (Clause.columnsEach clauses).flatten, column.table = table.name
  | [], clauses, compiled => by
    cases compiled
    exact fun _ inside => absurd inside List.not_mem_nil
  | criterion :: rest, clauses, compiled => by
    rw [compileCriteria] at compiled
    obtain ⟨clause, first, compiled⟩ := bind_eq_ok compiled
    obtain ⟨others, later, compiled⟩ := bind_eq_ok compiled
    cases compiled
    rw [Clause.columnsEach, List.flatten_cons, List.forall_mem_append]
    exact ⟨criterion.columns_compile table first, columns_compileCriteria table rest later⟩

theorem columns_compileMembers (table : Table) (joiner : Joiner) :
    ∀ (members : List (List Criterion)) {compiledMembers : List (List Clause)},
    compileMembers table joiner members = .ok compiledMembers →
    ∀ column ∈ (Clause.memberColumns compiledMembers).flatten, column.table = table.name
  | [], compiledMembers, compiled => by
    cases compiled
    exact fun _ inside => absurd inside List.not_mem_nil
  | member :: rest, compiledMembers, compiled => by
    rw [compileMembers] at compiled
    obtain ⟨clauses, first, compiled⟩ := bind_eq_ok compiled
    by_cases none : clauses.isEmpty
    · rw [if_pos none] at compiled
      cases compiled
    rw [if_neg none] at compiled
    obtain ⟨others, later, compiled⟩ := bind_eq_ok compiled
    cases compiled
    rw [Clause.memberColumns, List.flatten_cons, List.forall_mem_append]
    exact ⟨columns_compileCriteria table member first,
      columns_compileMembers table joiner rest later⟩

end

namespace QueryNode

variable {node : QueryNode}

theorem columnOf_table {field : String} {column : ColumnName}
    (compiled : node.columnOf field = .ok column) : column.table = node.table.name := by
  obtain ⟨_, _, compiled⟩ := bind_eq_ok compiled
  cases compiled
  rfl

theorem aggregateProjection_table {aggregate : Aggregate} {projection : Projection}
    (compiled : node.aggregateProjection aggregate = .ok projection) :
    ∀ column ∈ projection.columns, column.table = node.table.name := by
  unfold aggregateProjection at compiled
  split at compiled
  · obtain ⟨name, ran, rfl⟩ := map_eq_ok compiled
    simpa [Projection.columns] using columnOf_table ran
  · cases compiled
    simp [Projection.columns]

/-- What a node shows are columns of its table. -/
theorem projections_table {aggregated : Bool} {projections : List Projection}
    (compiled : node.projections aggregated = .ok projections) :
    ∀ projection ∈ projections, ∀ column ∈ projection.columns, column.table = node.table.name := by
  unfold QueryNode.projections at compiled
  split at compiled
  · intro projection inside
    obtain ⟨aggregate, -, made⟩ := exists_of_forall₂ (mapM_eq_ok compiled) inside
    exact aggregateProjection_table made
  split at compiled
  · cases compiled
    simp
  split at compiled
  · intro projection inside
    obtain ⟨field, -, made⟩ := exists_of_forall₂ (mapM_eq_ok compiled) inside
    obtain ⟨name, ran, rfl⟩ := map_eq_ok made
    simpa [Projection.columns] using columnOf_table ran
  · cases compiled
    simp [Projection.columns]

theorem sortKeys_table {order : List SortKey} (compiled : node.orderBy.mapM node.sortKey = .ok order) :
    ∀ key ∈ order, key.column.table = node.table.name := by
  intro key inside
  obtain ⟨entry, -, made⟩ := exists_of_forall₂ (mapM_eq_ok compiled) inside
  obtain ⟨name, ran, rfl⟩ := map_eq_ok made
  exact columnOf_table ran

end QueryNode

namespace Join

/-- The join introduces one table, and equates a column of it with one of the other. -/
structure Relates (join : Join) (parent child : String) : Prop where
  table : join.table = child
  ends : join.left.table = parent ∧ join.right.table = child ∨
    join.left.table = child ∧ join.right.table = parent

/-- Every link of an included table relates it to the table above. -/
theorem relates_of_links {parent child : Table} {link : Link} (inside : link ∈ links parent child) :
    link.join.Relates parent.name child.name := by
  obtain ⟨column, -, found⟩ := List.mem_flatMap.1 inside
  rcases List.mem_append.1 found with own | other
  · unfold ownLink at own
    split at own
    · split at own
      · rename_i key _ same
        rw [List.mem_singleton.1 own]
        exact ⟨rfl, .inl ⟨same, rfl⟩⟩
      · exact absurd own List.not_mem_nil
    · exact absurd own List.not_mem_nil
  · obtain ⟨⟨field, key⟩, -, made⟩ := List.mem_filterMap.1 other
    dsimp only at made
    split at made
    · cases made
      exact ⟨rfl, .inr ⟨rfl, rfl⟩⟩
    · cases made

theorem choose_relates {parent child : Table} {key : String} {join : Join}
    (chosen : choose parent child key = .ok join) : join.Relates parent.name child.name := by
  unfold choose at chosen
  dsimp only at chosen
  split at chosen
  · rename_i link found
    cases chosen
    refine relates_of_links ?_
    cases named : (links parent child).find? fun link => link.via == some key with
    | some other =>
      rw [named] at found
      cases found
      exact List.mem_of_find?_eq_some named
    | none =>
      rw [named] at found
      exact List.mem_of_head? found
  · cases chosen

end Join

/-- The part of a node below the root joins its table to the table above. -/
theorem QueryNode.Contributes.relates {node parent : QueryNode} {key : String} {aggregated : Bool}
    {part : SelectPart} (contributes : node.Contributes (some (key, parent)) aggregated part) :
    ∃ join, part.join = some join ∧ join.Relates parent.table.name node.table.name := by
  obtain ⟨join, chosen, same⟩ := map_eq_ok contributes.join
  exact ⟨join, same.symm, Join.choose_relates chosen⟩

/-! ### The nodes above -/

namespace Tree

variable {α : Type}

mutual

/-- A node is reached as its tree is, or from a node of this tree. -/
theorem above_visitsFrom (above : Option (String × α)) : ∀ (tree : Tree α),
    ∀ visit ∈ tree.visitsFrom above, visit.above = above ∨
      ∃ key, ∃ parent ∈ tree.preorder, visit.above = some (key, parent)
  | node label children, visit, inside => by
    rw [visitsFrom, List.mem_cons] at inside
    rcases inside with rfl | below
    · exact .inl rfl
    · obtain ⟨key, parent, among, same⟩ := above_childVisits label children visit below
      exact .inr ⟨key, parent, among, same⟩

/-- A node below another one is reached from this one or from a node below it. -/
theorem above_childVisits (label : α) : ∀ (children : List (String × Tree α)),
    ∀ visit ∈ childVisits label children,
      ∃ key, ∃ parent ∈ label :: preorderAll children, visit.above = some (key, parent)
  | (key, child) :: rest, visit, inside => by
    rw [childVisits, List.mem_append] at inside
    rcases inside with here | later
    · rcases above_visitsFrom (some (key, label)) child visit here with same | ⟨other, parent, among, same⟩
      · exact ⟨key, label, List.mem_cons_self, same⟩
      · exact ⟨other, parent, List.mem_cons_of_mem _ (List.mem_append_left _ among), same⟩
    · obtain ⟨other, parent, among, same⟩ := above_childVisits label rest visit later
      refine ⟨other, parent, ?_, same⟩
      rcases List.mem_cons.1 among with rfl | below
      · exact List.mem_cons_self
      · exact List.mem_cons_of_mem _ (List.mem_append_right _ below)

end

end Tree

/-! ### The tables of a query -/

namespace Query

/-- The names of the tables of the nodes, in pre-order. -/
def tableNames (query : Query) : List String := query.preorder.map fun node => node.table.name

/-- Nodes below the root each join their own table. -/
theorem tables_of_parts {visits : List (Tree.Visit QueryNode)} {found : List SelectPart}
    (below : ∀ visit ∈ visits, ∃ above, visit.above = some above)
    (parts : Forall₂ (fun visit part => ∃ aggregated,
      visit.label.Contributes visit.above aggregated part) visits found) :
    (found.filterMap SelectPart.join).map Join.table =
      visits.map fun visit => visit.label.table.name := by
  induction parts with
  | nil => rfl
  | @cons visit part visits found here _ ih =>
    obtain ⟨⟨⟨key, parent⟩, reached⟩, later⟩ := List.forall_mem_cons.1 below
    obtain ⟨aggregated, contributes⟩ := here
    rw [reached] at contributes
    obtain ⟨join, joined, relates⟩ := contributes.relates
    rw [List.filterMap_cons_some joined, List.map_cons, List.map_cons, relates.table, ih later]

/-- The root joins nothing, and the nodes below it each contribute a part with a join. -/
theorem compile_included {query : Query} {select : Select} (compiled : query.compile = .ok select) :
    ∃ root found, select = assemble query.label (root :: found) ∧ root.join = none ∧
      (∀ visit ∈ query.visits.tail, ∃ above, visit.above = some above) ∧
      Forall₂ (fun visit part => ∃ aggregated, visit.label.Contributes visit.above aggregated part)
        query.visits.tail found := by
  obtain ⟨found, rfl, parts⟩ := compile_parts compiled
  obtain ⟨root, children⟩ := query
  have visits : Tree.visits (.node root children) = ⟨none, root⟩ :: Tree.childVisits root children :=
    rfl
  rw [visits] at parts ⊢
  cases parts with
  | @cons _ part _ found first later =>
    obtain ⟨_, contributes⟩ := first
    refine ⟨part, found, rfl, (Except.ok.inj contributes.join).symm, fun visit inside => ?_, later⟩
    obtain ⟨key, parent, -, reached⟩ := Tree.above_childVisits root children visit inside
    exact ⟨_, reached⟩

/-- **A select introduces the table of every node**, in pre-order. -/
theorem compile_tables {query : Query} {select : Select} (compiled : query.compile = .ok select) :
    select.tables = query.tableNames := by
  obtain ⟨root, found, rfl, unjoined, below, parts⟩ := compile_included compiled
  have names : query.tableNames =
      query.label.table.name :: query.visits.tail.map fun visit => visit.label.table.name := by
    obtain ⟨node, children⟩ := query
    rw [tableNames, ← Tree.map_label_visits, List.map_map]
    rfl
  rw [names, Select.tables, assemble, List.filterMap_cons_none unjoined, tables_of_parts below parts]

/-- The joins of a select relate tables of the query, one of them the joined one. -/
theorem compile_joins {query : Query} {select : Select} (compiled : query.compile = .ok select) :
    ∀ join ∈ select.joins, ∃ parent ∈ query.tableNames, ∃ child ∈ query.tableNames,
      join.Relates parent child := by
  obtain ⟨found, rfl, parts⟩ := compile_parts compiled
  intro join inside
  obtain ⟨part, among, joined⟩ := List.mem_filterMap.1 inside
  obtain ⟨visit, visited, aggregated, contributes⟩ := exists_of_forall₂ parts among
  have label : visit.label ∈ query.preorder :=
    Tree.map_label_visits query ▸ List.mem_map_of_mem visited
  rcases Tree.above_visitsFrom none query visit visited with reached | ⟨key, parent, above, reached⟩
  · rw [reached] at contributes
    have unjoined : part.join = none := (Except.ok.inj contributes.join).symm
    rw [unjoined] at joined
    cases joined
  · rw [reached] at contributes
    obtain ⟨other, same, relates⟩ := contributes.relates
    obtain rfl : other = join := Option.some.inj (same.symm.trans joined)
    exact ⟨_, List.mem_map_of_mem above, _, List.mem_map_of_mem label, relates⟩

/-- **A select refers to columns of the tables of nodes only.** -/
theorem compile_columns {query : Query} {select : Select} (compiled : query.compile = .ok select) :
    ∀ column ∈ select.columns, column.table ∈ query.tableNames := by
  have joins := compile_joins compiled
  obtain ⟨found, rfl, parts⟩ := compile_parts compiled
  have own : ∀ part ∈ found, ∃ node ∈ query.preorder, ∃ aggregated,
      node.projections aggregated = .ok part.projections ∧
      node.filter.compile node.table = .ok part.clauses ∧
      node.orderBy.mapM node.sortKey = .ok part.order := by
    intro part among
    obtain ⟨visit, visited, aggregated, contributes⟩ := exists_of_forall₂ parts among
    exact ⟨visit.label, Tree.map_label_visits query ▸ List.mem_map_of_mem visited, aggregated,
      contributes.projections, contributes.clauses, contributes.order⟩
  have named : ∀ node ∈ query.preorder, ∀ column : ColumnName, column.table = node.table.name →
      column.table ∈ query.tableNames := fun node inside column same =>
    List.mem_map.2 ⟨node, inside, same.symm⟩
  intro column inside
  simp only [Select.columns, List.mem_append, or_assoc] at inside
  rcases inside with shown | joined | asked | ordered
  · obtain ⟨projection, inPart, within⟩ := List.mem_flatMap.1 shown
    obtain ⟨part, among, has⟩ := List.mem_flatMap.1 inPart
    obtain ⟨node, visited, _, shows, -, -⟩ := own part among
    exact named node visited column (QueryNode.projections_table shows projection has column within)
  · obtain ⟨join, inside, within⟩ := List.mem_flatMap.1 joined
    obtain ⟨parent, above, child, below, relates⟩ := joins join inside
    rcases List.mem_pair.1 within with rfl | rfl
    all_goals
      rcases relates.ends with ⟨left, right⟩ | ⟨left, right⟩
      all_goals
        first
          | rwa [left]
          | rwa [right]
  · obtain ⟨clause, inPart, within⟩ := List.mem_flatMap.1 asked
    obtain ⟨part, among, has⟩ := List.mem_flatMap.1 inPart
    obtain ⟨node, visited, _, -, asks, -⟩ := own part among
    refine named node visited column (columns_compileCriteria node.table node.filter asks column ?_)
    rw [Clause.columnsEach_eq]
    exact List.mem_flatMap.2 ⟨clause, has, within⟩
  · obtain ⟨key, inPart, rfl⟩ := List.mem_map.1 ordered
    obtain ⟨part, among, has⟩ := List.mem_flatMap.1 inPart
    obtain ⟨node, visited, _, -, -, orders⟩ := own part among
    exact named node visited key.column (QueryNode.sortKeys_table orders key has)

/-- Every table that is joined is referred to. -/
theorem compile_joined {query : Query} {select : Select} (compiled : query.compile = .ok select) :
    ∀ table ∈ select.joins.map Join.table, ∃ column ∈ select.columns, column.table = table := by
  intro table inside
  obtain ⟨join, among, rfl⟩ := List.mem_map.1 inside
  obtain ⟨parent, -, child, -, relates⟩ := compile_joins compiled join among
  have refers : ∀ column ∈ join.columns, column ∈ select.columns := fun column within => by
    simp only [Select.columns, List.mem_append]
    exact .inl (.inl (.inr (List.mem_flatMap.2 ⟨join, among, within⟩)))
  rcases relates.ends with ⟨-, right⟩ | ⟨left, -⟩
  · exact ⟨join.right, refers _ (by simp [Join.columns]), right.trans relates.table.symm⟩
  · exact ⟨join.left, refers _ (by simp [Join.columns]), left.trans relates.table.symm⟩

/-- **Columns belong to one table each exactly if the nodes have different tables.** The text of a query
introduces the table of every node under its own name, in pre-order, and refers to columns of these tables
only. Each column belongs to a single one of them if no two nodes have the same table, and not otherwise. -/
theorem build_tables (query : Query) (built : Sql.BoundText) (compiled : query.build = .ok built) :
    ∃ tokens, tokens? built.sql built.params = some tokens ∧
      introduced tokens = query.tableNames ∧
      (∀ column ∈ references tokens, column.table ∈ introduced tokens) ∧
      ((∀ column ∈ references tokens, (introduced tokens).count column.table = 1) ↔
        query.tableNames.Nodup) := by
  obtain ⟨select, ran, rfl⟩ := build_eq_ok compiled
  obtain ⟨tokens, read, tables, columns⟩ := select.tokens?_found
  have known := compile_columns ran
  have joined := compile_joined ran
  rw [← compile_tables ran] at known ⊢
  refine ⟨tokens, read, tables, ?_, ?_⟩
  · rwa [tables, columns]
  · rw [tables, columns]
    constructor
    · intro single
      refine List.nodup_iff_count_le_one.2 fun table => ?_
      by_cases again : table ∈ select.joins.map Join.table
      · obtain ⟨column, inside, rfl⟩ := joined table again
        exact Nat.le_of_eq (single column inside)
      · have once := List.count_eq_zero.2 again
        rw [Select.tables, List.count_cons, once]
        split <;> omega
    · exact fun distinct column inside => List.count_eq_one_of_mem distinct (known column inside)

/-- Two tables, related by a key of the included one. -/
theorem build_tables_songs :
    let singers : Table := ⟨"singers", [{ name := "id", type := .int, primaryKey := true }]⟩
    let songs : Table := ⟨"songs", [{ name := "plays", type := .int },
      { name := "by", type := .int, foreignKey := some { table := "singers", field := "id" } }]⟩
    let query : Query := .node { table := singers }
      [("songs", .node
        { table := songs, select := some ["plays"], filter := Filter.empty.eq "plays" (3 : Int64) } [])]
    let built : Sql.BoundText := ⟨"SELECT \x60singers\x60.\x60id\x60, \x60songs\x60.\x60plays\x60 " ++
      "FROM \x60singers\x60 LEFT JOIN \x60songs\x60 ON \x60singers\x60.\x60id\x60 = " ++
      "\x60songs\x60.\x60by\x60 WHERE \x60songs\x60.\x60plays\x60 = ?", [.int 3]⟩
    query.build = .ok built ∧
    ∃ tokens, tokens? built.sql built.params = some tokens ∧
      introduced tokens = ["singers", "songs"] ∧
      ∀ column ∈ references tokens, (introduced tokens).count column.table = 1 := by
  intro singers songs query built
  have compiled : query.build = .ok built := by decide +kernel
  obtain ⟨tokens, read, tables, -, single⟩ := build_tables query built compiled
  exact ⟨compiled, tokens, read, tables, single.2 (by decide)⟩

/-- The tables and the columns in the text of a query. -/
def found (query : Query) : Compiled (Option (List String × List ColumnName)) :=
  query.build.map fun built =>
    (tokens? built.sql built.params).map fun tokens => (introduced tokens, references tokens)

theorem found_eq (query : Query) :
    query.found = query.compile.map fun select => some (select.tables, select.columns) := by
  unfold found build
  cases query.compile with
  | error cause => rfl
  | ok select =>
    obtain ⟨tokens, read, tables, columns⟩ := select.tokens?_found
    simp only [Except.map, Fragment.bound, read, Option.map_some, tables, columns]

/-- **A table is introduced twice under one name** where two keys lead to it, where two branches do, and
where it includes itself: no column of it belongs to a single occurrence. -/
theorem build_tables_twice :
    let posts : Table := ⟨"posts", [{ name := "id", type := .int, primaryKey := true },
      { name := "parent", type := .int, foreignKey := some { table := "posts", field := "id" } }]⟩
    let users : Table := ⟨"users", [{ name := "id", type := .int, primaryKey := true },
      { name := "best", type := .int, foreignKey := some { table := "posts", field := "id" } },
      { name := "last", type := .int, foreignKey := some { table := "posts", field := "id" } }]⟩
    let likes : Table := ⟨"likes", [
      { name := "by", type := .int, foreignKey := some { table := "users", field := "id" } },
      { name := "post", type := .int, foreignKey := some { table := "posts", field := "id" } }]⟩
    let ofPosts : Query := .node { table := posts, select := some ["id"] } []
    let ofUsers (included : List (String × Query)) : Query :=
      .node { table := users, select := some ["id"] } included
    let keys : Query := ofUsers [("best", ofPosts), ("last", ofPosts)]
    let branches : Query := .node { table := likes, select := some ["by"] }
      [("by", ofUsers [("best", ofPosts)]), ("post", ofPosts)]
    let itself : Query := ofPosts.including "parent" ofPosts
    (∀ table ∈ [posts, users, likes], table.validate = .ok ()) ∧
    keys.found = .ok (some (["users", "posts", "posts"],
      [⟨"users", "id"⟩, ⟨"posts", "id"⟩, ⟨"posts", "id"⟩,
        ⟨"posts", "id"⟩, ⟨"users", "best"⟩, ⟨"posts", "id"⟩, ⟨"users", "last"⟩])) ∧
    branches.found = .ok (some (["likes", "users", "posts", "posts"],
      [⟨"likes", "by"⟩, ⟨"users", "id"⟩, ⟨"posts", "id"⟩, ⟨"posts", "id"⟩,
        ⟨"users", "id"⟩, ⟨"likes", "by"⟩, ⟨"posts", "id"⟩, ⟨"users", "best"⟩,
        ⟨"posts", "id"⟩, ⟨"likes", "post"⟩])) ∧
    itself.found = .ok (some (["posts", "posts"],
      [⟨"posts", "id"⟩, ⟨"posts", "id"⟩, ⟨"posts", "id"⟩, ⟨"posts", "parent"⟩])) := by
  simp only [found_eq]
  decide +kernel

end Query

end SqlCraft
