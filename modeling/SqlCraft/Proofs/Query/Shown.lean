/-
**What a query shows of each node.**

A node shows its aggregates if it has any, and otherwise its fields unless these are hidden. They should be
hidden below a node with aggregates. The walk keeps a single flag for this, which is set and never
cleared, so that they are hidden behind such a node as well: what a query shows of a node depends on the
nodes before it, not on those above it alone.

* `QueryNode.shows` — what a node shows;
* `Query.shown`, `Query.wanted` — what the nodes show, and what they would show if aggregates hid only what is
  below them;
* `Query.build_shows` — the list of a query, and when it is what is wanted;
* `Query.build_shows_siblings` — an aggregate that hides its sibling.
-/

import SqlCraft.Proofs.Query.Listing
import SqlCraft.Proofs.Query.Position
import SqlCraft.Proofs.Query.Walk

namespace SqlCraft

open Sql
open List (Forall₂)

/-! ### The list of a node -/

namespace QueryNode

/-- A field of the table as a column. -/
def column (node : QueryNode) (field : String) : ColumnName := ⟨node.table.name, field⟩

/-- What a node shows: its aggregates if it has any, and else, unless hidden, the fields that it selects, or
all fields of its table. -/
def shows (node : QueryNode) (hidden : Bool) : List Projection :=
  if node.isAggregated then
    node.aggregates.map fun aggregate =>
      .aggregate aggregate.function (aggregate.field.map node.column) aggregate.label
  else if hidden then []
  else (node.select.getD node.table.columnNames).map fun field => .column (node.column field)

theorem shows_true (node : QueryNode) :
    node.shows true = if node.isAggregated then node.shows false else [] := by
  unfold shows
  split <;> rfl

theorem shows_sublist (node : QueryNode) : (node.shows true).Sublist (node.shows false) := by
  rw [shows_true]
  split
  · exact .refl _
  · exact List.nil_sublist _

theorem shows_true_eq_iff {node : QueryNode} :
    node.shows true = node.shows false ↔ node.isAggregated ∨ node.shows false = [] := by
  rw [shows_true]
  by_cases aggregated : node.isAggregated
  · simp [aggregated]
  · rw [if_neg aggregated, or_iff_right aggregated]
    exact eq_comm

theorem columnOf_ok {node : QueryNode} {field : String} {column : ColumnName}
    (compiled : node.columnOf field = .ok column) : column = node.column field := by
  obtain ⟨_, -, compiled⟩ := bind_eq_ok compiled
  cases compiled
  rfl

theorem aggregateProjection_ok {node : QueryNode} {aggregate : Aggregate} {projection : Projection}
    (compiled : node.aggregateProjection aggregate = .ok projection) :
    projection =
      .aggregate aggregate.function (aggregate.field.map node.column) aggregate.label := by
  unfold aggregateProjection at compiled
  cases operand : aggregate.field with
  | none =>
    rw [operand] at compiled
    cases compiled
    rfl
  | some field =>
    rw [operand] at compiled
    obtain ⟨name, ran, rfl⟩ := map_eq_ok compiled
    rw [columnOf_ok ran, Option.map_some]

/-- What a node shows is determined by whether its fields are hidden. -/
theorem projections_ok {node : QueryNode} {hidden : Bool} {projections : List Projection}
    (compiled : node.projections hidden = .ok projections) : projections = node.shows hidden := by
  unfold QueryNode.projections at compiled
  unfold shows isAggregated
  split at compiled
  · rename_i aggregated
    rw [if_pos aggregated]
    exact mapM_eq_map compiled fun _ _ => aggregateProjection_ok
  rename_i plain
  rw [if_neg plain]
  split at compiled
  · rename_i suppressed
    cases compiled
    rw [if_pos suppressed]
  rename_i visible
  rw [if_neg visible]
  cases select : node.select with
  | some fields =>
    rw [select] at compiled
    refine mapM_eq_map compiled fun field projection made => ?_
    obtain ⟨name, ran, rfl⟩ := map_eq_ok made
    rw [columnOf_ok ran]
  | none =>
    rw [select] at compiled
    cases compiled
    rfl

end QueryNode

/-! ### The list of a query -/

section

variable {α β : Type} {list : List α} {some all : α → List β}

theorem flatMap_sublist (each : ∀ element ∈ list, (some element).Sublist (all element)) :
    (list.flatMap some).Sublist (list.flatMap all) := by
  induction list with
  | nil => exact .slnil
  | cons element rest ih =>
    obtain ⟨here, later⟩ := List.forall_mem_cons.1 each
    exact here.append (ih later)

/-- Nothing is left out of the whole exactly if nothing is left out of a part. -/
theorem flatMap_eq_iff (each : ∀ element ∈ list, (some element).Sublist (all element)) :
    list.flatMap some = list.flatMap all ↔ ∀ element ∈ list, some element = all element := by
  induction list with
  | nil => simp
  | cons element rest ih =>
    obtain ⟨here, later⟩ := List.forall_mem_cons.1 each
    rw [List.flatMap_cons, List.flatMap_cons, List.forall_mem_cons, ← ih later]
    constructor
    · intro whole
      -- Neither the first part nor the rest can grow, so that neither shrinks if the whole does not.
      have within := (flatMap_sublist later).length_le
      have total := congrArg List.length whole
      rw [List.length_append, List.length_append] at total
      have first : some element = all element :=
        here.eq_of_length_le (by omega)
      rw [first] at whole
      exact ⟨first, List.append_cancel_left whole⟩
    · rintro ⟨first, others⟩
      rw [first, others]

end

namespace Query

/-- What the nodes of a query show, each hidden behind a node with aggregates. -/
def shown (query : Query) : List Projection :=
  query.positions.flatMap fun position => position.label.shows position.isBehindAggregate

/-- What the nodes of a query would show if each were hidden below a node with aggregates only. -/
def wanted (query : Query) : List Projection :=
  query.positions.flatMap fun position => position.label.shows position.isBelowAggregate

theorem compile_shows {query : Query} {select : Select} (compiled : query.compile = .ok select) :
    select.projections = query.shown := by
  obtain ⟨found, rfl, parts⟩ := compile_positions compiled
  have same : Forall₂ (· = ·) (query.positions.map fun position =>
      position.label.shows position.isBehindAggregate) (found.map SelectPart.projections) := by
    rw [List.forall₂_map_left_iff, List.forall₂_map_right_iff]
    exact parts.imp fun position part contributes =>
      (QueryNode.projections_ok contributes.projections).symm
  rw [List.forall₂_eq_eq_eq] at same
  simp only [assemble, shown, List.flatMap_def, same]

/-- All that is wanted is shown exactly if no node that has fields to show is behind an aggregate without
being below one. -/
theorem shown_eq_wanted_iff {query : Query} : query.shown = query.wanted ↔
    ∀ position ∈ query.positions, position.isBehindAggregate → ¬ position.isBelowAggregate →
      position.label.isAggregated ∨ position.label.shows false = [] := by
  have each (position : Tree.Position QueryNode) (inside : position ∈ query.positions) :
      (position.label.shows position.isBehindAggregate).Sublist
          (position.label.shows position.isBelowAggregate) ∧
      (position.label.shows position.isBehindAggregate = position.label.shows position.isBelowAggregate ↔
        (position.isBehindAggregate → ¬ position.isBelowAggregate →
          position.label.isAggregated ∨ position.label.shows false = [])) := by
    have implies := isBehindAggregate_of_isBelowAggregate position inside
    cases below : position.isBelowAggregate with
    | true => simp [implies below]
    | false =>
      cases behind : position.isBehindAggregate with
      | false => simp
      | true => exact ⟨position.label.shows_sublist, by simpa using QueryNode.shows_true_eq_iff⟩
  rw [shown, wanted, flatMap_eq_iff fun position inside => (each position inside).1]
  exact forall₂_congr fun position inside => (each position inside).2

/-- **What a query lists.** The list in the text of a query is what its nodes show in pre-order: of a node its
aggregates if it has any, else nothing behind a node with aggregates, else the fields that it selects or all
fields of its table. The text is that of a walk which hands on one flag for the aggregates. An aggregate hides
more than the nodes below it: the list is what is wanted of each node, given the nodes above it, exactly if
no node that has fields to show is behind an aggregate without being below one. -/
theorem build_shows (query : Query) (built : Sql.BoundText) (compiled : query.build = .ok built) :
    query.emit = .ok built ∧ ∃ tokens, tokens? built.sql built.params = some tokens ∧
      Projection.listed? tokens = some query.shown ∧
      (Projection.listed? tokens = some query.wanted ↔
        ∀ position ∈ query.positions, position.isBehindAggregate → ¬ position.isBelowAggregate →
          position.label.isAggregated ∨ position.label.shows false = []) := by
  refine ⟨query.emit_eq.trans compiled, ?_⟩
  obtain ⟨select, ran, rfl⟩ := build_eq_ok compiled
  obtain ⟨tokens, read, listed, -⟩ := select.tokens?_listed
  rw [compile_shows ran] at listed
  refine ⟨tokens, read, listed, ?_⟩
  rw [listed, Option.some.injEq, shown_eq_wanted_iff]

/-- An aggregate behind all fields that are shown hides those of the table that is included below it. -/
theorem build_shows_nested :
    let labels : Table := ⟨"labels", [{ name := "id", type := .int, primaryKey := true }]⟩
    let albums : Table := ⟨"albums", [{ name := "id", type := .int, primaryKey := true }]⟩
    let authors : Table := ⟨"authors", [{ name := "id", type := .int, primaryKey := true },
      { name := "label", type := .int, foreignKey := some { table := "labels", field := "id" } }]⟩
    let songs : Table := ⟨"songs", [
      { name := "author", type := .int, foreignKey := some { table := "authors", field := "id" } },
      { name := "album", type := .int, foreignKey := some { table := "albums", field := "id" } }]⟩
    let query : Query := .node { table := authors, select := some ["id"] }
      [("label", .node { table := labels } []),
        ("songs", .node { table := songs, aggregates := [⟨.max, some "album", "last"⟩] }
          [("album", .node { table := albums } [])])]
    let list : List Projection := [.column ⟨"authors", "id"⟩, .column ⟨"labels", "id"⟩,
      .aggregate .max (some ⟨"songs", "album"⟩) "last"]
    let built : Sql.BoundText := ⟨"SELECT \x60authors\x60.\x60id\x60, \x60labels\x60.\x60id\x60, " ++
      "MAX(\x60songs\x60.\x60album\x60) AS \x60last\x60 FROM \x60authors\x60 LEFT JOIN \x60labels\x60 " ++
      "ON \x60labels\x60.\x60id\x60 = \x60authors\x60.\x60label\x60 LEFT JOIN \x60songs\x60 " ++
      "ON \x60authors\x60.\x60id\x60 = \x60songs\x60.\x60author\x60 LEFT JOIN \x60albums\x60 " ++
      "ON \x60albums\x60.\x60id\x60 = \x60songs\x60.\x60album\x60", []⟩
    query.build = .ok built ∧ query.wanted = list ∧ query.emit = .ok built ∧
    ∃ tokens, tokens? built.sql built.params = some tokens ∧
      Projection.listed? tokens = some list := by
  intro labels albums authors songs query list built
  have compiled : query.build = .ok built := by decide +kernel
  have wanted : query.wanted = list := by decide +kernel
  obtain ⟨walked, tokens, read, -, scope⟩ := build_shows query built compiled
  have listed := scope.2 (by decide)
  rw [wanted] at listed
  exact ⟨compiled, wanted, walked, tokens, read, listed⟩

/-- What is read from the text of a query as its list. -/
def listing (query : Query) : Compiled (Option (List Projection)) :=
  query.build.map fun built => (tokens? built.sql built.params).bind Projection.listed?

theorem listing_eq (query : Query) :
    query.listing = query.compile.map fun select => some select.projections := by
  unfold listing build
  cases query.compile with
  | error cause => rfl
  | ok select =>
    obtain ⟨tokens, read, listed, -⟩ := select.tokens?_listed
    simp only [Except.map, Fragment.bound, read, Option.bind_some, listed]

/-- **An aggregate hides what is included beside it.** The fields of a table are listed if it is included before
a table with an aggregate, and not if it is included after it, though the nodes above it are the same. -/
theorem build_shows_siblings :
    let authors : Table := ⟨"authors", [{ name := "id", type := .int, primaryKey := true }]⟩
    let author : Column :=
      { name := "by", type := .int, foreignKey := some { table := "authors", field := "id" } }
    let songs : Query :=
      .node { table := ⟨"songs", [author]⟩, aggregates := [⟨.count, none, "n"⟩] } []
    let albums : Query := .node { table := ⟨"albums", [author]⟩ } []
    let ofAuthors (included : List (String × Query)) : Query :=
      .node { table := authors, select := some ["id"] } included
    let after : Query := ofAuthors [("songs", songs), ("albums", albums)]
    let before : Query := ofAuthors [("albums", albums), ("songs", songs)]
    after.listing = .ok (some [.column ⟨"authors", "id"⟩, .aggregate .count none "n"]) ∧
    after.wanted = [.column ⟨"authors", "id"⟩, .aggregate .count none "n", .column ⟨"albums", "by"⟩] ∧
    before.listing = .ok (some [.column ⟨"authors", "id"⟩, .column ⟨"albums", "by"⟩,
      .aggregate .count none "n"]) ∧
    before.listing = .ok (some before.wanted) := by
  simp only [listing_eq]
  decide +kernel

end Query

end SqlCraft
