/-
**Which queries are built.**

At each node a query may be wrong in some ways: an include may be paged or have no link to the table above,
a node may select fields beside aggregates or name a field that its table does not declare, or its filter
may be refused. The walk looks for these in pre-order and stops at the first. It does not look at what a
node selects if a node before it has aggregates, for then this is not shown.

* `Tree.Position.offences`, `Query.offences` — all that is wrong with a query, in order;
* `Tree.Position.WellFormed` — nothing is wrong at a node;
* `Query.build_judged` — building fails with the first offence;
* `Query.build_declares` — which fields have to be declared;
* `Query.build_overlooks` — a selected field that need not be.
-/

import SqlCraft.Proofs.Filter.Offence
import SqlCraft.Proofs.Query.Link
import SqlCraft.Proofs.Query.Position

namespace SqlCraft

namespace QueryNode

/-- The fields that a node selects or has aggregates of; those that it selects only if they are shown. -/
def shownFields (node : QueryNode) (hidden : Bool) : List String :=
  (if hidden then [] else node.select.getD []) ++ node.aggregates.filterMap Aggregate.field

/-- All fields that a node names; those that it selects only if they are shown. -/
def fields (node : QueryNode) (hidden : Bool) : List String :=
  node.shownFields hidden ++ node.filter.fields ++ node.orderBy.map Prod.fst

end QueryNode

namespace Tree.Position

/-- What is wrong with the link of an include to the table above, if anything. -/
def linkOffences (position : Position QueryNode) : List CompileError :=
  match position.above with
  | none => []
  | some (_, parent) =>
    if Join.Linked parent.table position.label.table then []
    else [.unrelated parent.table.name position.label.table.name]

/-- What is wrong at a node before its link is looked for. -/
def entryOffences (position : Position QueryNode) : List CompileError :=
  let node := position.label
  let table := node.table
  List.flatten [
    if position.above.isSome && node.isPaged then [.descriptor (.pagedInclude table.name)] else [],
    if node.select.isSome && node.isAggregated then
      [.descriptor (.selectWithAggregate table.name)] else [],
    (node.shownFields position.isBehindAggregate).flatMap table.fieldOffences,
    node.filter.offences table]

/-- What is wrong with the order of a node. -/
def orderOffences (position : Position QueryNode) : List CompileError :=
  (position.label.orderBy.map Prod.fst).flatMap position.label.table.fieldOffences

/-- All that is wrong at a node, in order. -/
def offences (position : Position QueryNode) : List CompileError :=
  position.entryOffences ++ (position.linkOffences ++ position.orderOffences)

/-- Nothing is wrong at a node. -/
structure WellFormed (position : Position QueryNode) : Prop where
  /-- Only the root skips or limits rows. -/
  paged : position.above.isSome → position.label.isPaged = false
  /-- It does not select fields beside aggregates. -/
  exclusive : position.label.select.isSome → position.label.aggregates = []
  /-- The fields that it names are declared, but for selected ones behind an aggregate. -/
  declared : ∀ field ∈ position.label.fields position.isBehindAggregate,
    position.label.table.declares field
  /-- Its filter can be compiled. -/
  filtered : position.label.filter.WellFormed position.label.table
  /-- It is linked to the table above. -/
  linked : ∀ key parent, position.above = some (key, parent) →
    Join.Linked parent.table position.label.table

theorem linkOffences_eq_nil_iff {position : Position QueryNode} :
    position.linkOffences = [] ↔ ∀ key parent, position.above = some (key, parent) →
      Join.Linked parent.table position.label.table := by
  unfold linkOffences
  cases position.above with
  | none => simp
  | some above =>
    obtain ⟨key, parent⟩ := above
    simp

theorem wellFormed_iff {position : Position QueryNode} :
    position.WellFormed ↔ position.offences = [] := by
  simp only [offences, entryOffences, orderOffences, List.append_eq_nil_iff, List.flatten_eq_nil_iff,
    List.forall_mem_cons, List.not_mem_nil, false_implies, implies_true, and_true,
    Table.flatMap_fieldOffences_eq_nil_iff, linkOffences_eq_nil_iff, ← Filter.wellFormed_iff]
  constructor
  · intro sound
    have declared := sound.declared
    simp only [QueryNode.fields, List.forall_mem_append] at declared
    refine ⟨⟨?_, ?_, declared.1.1, sound.filtered⟩, sound.linked, declared.2⟩
    · simpa using sound.paged
    · simpa [QueryNode.isAggregated] using sound.exclusive
  · rintro ⟨⟨paged, exclusive, shown, filtered⟩, linked, sorted⟩
    refine ⟨?_, ?_, ?_, filtered, linked⟩
    · simpa using paged
    · simpa [QueryNode.isAggregated] using exclusive
    · simp only [QueryNode.fields, List.forall_mem_append]
      refine ⟨⟨shown, fun field inside => ?_⟩, sorted⟩
      exact filtered.declared field (Filter.mem_fields.1 inside)

end Tree.Position

/-! ### The steps of the walk -/

namespace QueryNode

theorem columnOf_judged (node : QueryNode) (field : String) :
    Judged (node.columnOf field) (node.table.fieldOffences field) :=
  (node.table.require_judged field).map _

theorem aggregateProjection_judged (node : QueryNode) (aggregate : Aggregate) :
    Judged (node.aggregateProjection aggregate)
      (aggregate.field.toList.flatMap node.table.fieldOffences) := by
  unfold aggregateProjection
  cases aggregate.field with
  | none => exact .passed _ rfl
  | some field =>
    rw [Option.toList_some, List.flatMap_singleton]
    exact (node.columnOf_judged field).map _

/-- What a node shows is refused for the fields that it names there. -/
theorem projections_judged {node : QueryNode} (exclusive : ¬ (node.select.isSome && node.isAggregated))
    (hidden : Bool) :
    Judged (node.projections hidden) ((node.shownFields hidden).flatMap node.table.fieldOffences) := by
  unfold projections shownFields
  by_cases aggregated : node.isAggregated
  · have select : node.select = none := by simpa [aggregated] using exclusive
    have fields : (node.aggregates.filterMap Aggregate.field).flatMap node.table.fieldOffences =
        node.aggregates.flatMap fun aggregate =>
          aggregate.field.toList.flatMap node.table.fieldOffences := by
      rw [List.filterMap_eq_flatMap_toList, List.flatMap_assoc]
    rw [isAggregated] at aggregated
    rw [if_pos aggregated, select, Option.getD_none, ite_self, List.nil_append, fields]
    exact .mapM _ fun aggregate _ => node.aggregateProjection_judged aggregate
  · have none : node.aggregates = [] := by simpa [isAggregated] using aggregated
    rw [isAggregated] at aggregated
    rw [if_neg aggregated, none, List.filterMap_nil, List.append_nil]
    cases hidden with
    | true => exact .passed [] rfl
    | false =>
      cases node.select with
      | none => exact .passed _ rfl
      | some fields => exact .mapM fields fun field _ => (node.columnOf_judged field).map _

theorem sortKeys_judged (node : QueryNode) :
    Judged (node.orderBy.mapM node.sortKey)
      ((node.orderBy.map Prod.fst).flatMap node.table.fieldOffences) := by
  rw [List.flatMap_map]
  exact .mapM _ fun entry _ => (node.columnOf_judged entry.1).map _

end QueryNode

namespace Tree.Position

theorem join?_judged (position : Position QueryNode) :
    Judged (position.label.join? position.above) position.linkOffences := by
  unfold linkOffences
  cases position.above with
  | none => exact .passed none rfl
  | some above => exact (Join.choose_judged above.2.table position.label.table above.1).map some

/-- The part of a node is refused for the first offence there. -/
theorem part_judged (position : Position QueryNode) : Judged position.part position.offences := by
  unfold part QueryNode.part offences entryOffences
  simp only [List.flatten_cons, List.flatten_nil, List.append_nil, List.append_assoc]
  refine .guard rfl fun _ => .guard rfl fun exclusive => ?_
  refine (QueryNode.projections_judged exclusive _).bind fun projections _ => ?_
  refine (position.label.filter.compile_judged _).bind fun clauses _ => ?_
  refine position.join?_judged.bind fun join _ => ?_
  exact position.label.sortKeys_judged.map _

end Tree.Position

namespace Query

/-- All that is wrong with a query, in the order of its nodes. -/
def offences (query : Query) : List CompileError := query.positions.flatMap Tree.Position.offences

/-- Compiling a query fails with the first of its offences. -/
theorem compile_judged (query : Query) : Judged query.compile query.offences := by
  rw [compile_eq]
  exact (Judged.mapM query.positions fun position _ => position.part_judged).map _

/-- **Building a query fails with the first of its offences**, and succeeds if there are none. -/
theorem build_judged (query : Query) : Judged query.build query.offences :=
  query.compile_judged.map _

theorem build_ok_iff (query : Query) : (∃ built, query.build = .ok built) ↔
    ∀ position ∈ query.positions, position.WellFormed := by
  rw [query.build_judged.ok_iff, offences, List.flatMap_eq_nil_iff]
  exact forall₂_congr fun position _ => Tree.Position.wellFormed_iff.symm

/-- **No unknown field gets past a query, but for selected ones that are not shown.** A query is refused if
a node at any depth has an aggregate of a field that its table does not declare, sorts by one, filters by
one at any depth, or selects one, unless a node before it has aggregates. Fields that are selected behind
an aggregate are not looked at: a query is built exactly if every node is well-formed without them. -/
theorem build_declares (query : Query) :
    (∀ position ∈ query.positions, ∀ field ∈ position.label.fields position.isBehindAggregate,
      position.label.table.declares field = false → ∃ cause, query.build = .error cause) ∧
    ((∃ built, query.build = .ok built) ↔ ∀ position ∈ query.positions, position.WellFormed) := by
  refine ⟨fun position inside field named unknown => ?_, query.build_ok_iff⟩
  cases ran : query.build with
  | error cause => exact ⟨cause, rfl⟩
  | ok built =>
    have sound := query.build_ok_iff.1 ⟨built, ran⟩ position inside
    exact absurd (sound.declared field named) (by simp [unknown])

/-- An unknown field deep in the filter of an included table, behind an aggregate. -/
theorem build_declares_nested :
    let authors : Table := ⟨"authors", [{ name := "id", type := .int, primaryKey := true }]⟩
    let songs : Table := ⟨"songs", [{ name := "title", type := .varchar },
      { name := "by", type := .int, foreignKey := some { table := "authors", field := "id" } }]⟩
    let count : Aggregate := ⟨.count, none, "n"⟩
    let asked : Filter := (Filter.empty.eq "title" "x").or [Filter.empty.eq "genre" "jazz"]
    let query : Query := .node { table := authors, aggregates := [count] }
      [("songs", .node { table := songs, filter := asked } [])]
    songs.declares "genre" = false ∧ ∃ cause, query.build = .error cause := by
  intro authors songs count asked query
  have last : query.positions.getLast (by decide) ∈ query.positions := List.getLast_mem _
  exact ⟨rfl, (build_declares query).1 _ last "genre" (by decide) rfl⟩

/-- **Two unknown fields that are selected are not looked at**, below a node with aggregates and beside
one. Each is refused if no node before it has aggregates. -/
theorem build_overlooks :
    let authors : Table := ⟨"authors", [{ name := "id", type := .int, primaryKey := true }]⟩
    let songs : Table := ⟨"songs", [{ name := "title", type := .varchar },
      { name := "by", type := .int, foreignKey := some { table := "authors", field := "id" } }]⟩
    let count : Aggregate := ⟨.count, none, "n"⟩
    let unknown : Query := .node { table := songs, select := some ["genre"] } []
    let below : Query := .node { table := authors, aggregates := [count] } [("songs", unknown)]
    let beside : Query := .node { table := authors, select := some ["id"] }
      [("songs", .node { table := songs, aggregates := [count] } []), ("songs", unknown)]
    let alone : Query := .node { table := authors } [("songs", unknown)]
    songs.declares "genre" = false ∧
    (∃ built, below.build = .ok built) ∧ (∃ built, beside.build = .ok built) ∧
    alone.build = .error (.unknownField "songs" "genre") := by
  intro authors songs count unknown below beside alone
  exact ⟨rfl, ⟨_, rfl⟩, ⟨_, rfl⟩, rfl⟩

end Query

end SqlCraft
