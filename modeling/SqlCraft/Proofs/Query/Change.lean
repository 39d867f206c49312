/-
**Queries with other values.**

Only the filters of a query hold values. With other values in them, as long as nulls stay where they
are, a query has the same text, binds the new values in the order of the old ones, or is refused for
the same reason.

* `Tree.map` — a tree with other labels, and its nodes as they are reached;
* `Query.mapValues` — a query with other values in its filters;
* `Query.compile_mapValues` — the select of such a query;
* `Query.build_mapValues` — its text and its parameters.
-/

import SqlCraft.Proofs.Filter.Change
import SqlCraft.Query.Select

namespace SqlCraft

open Sql (BoundText Fragment Piece)

/-! ### Trees with other labels -/

namespace Tree

variable {α β : Type} (change : α → β)

mutual

/-- A tree with other labels. -/
def map : Tree α → Tree β
  | node label children => node (change label) (mapAll children)

/-- Trees with other labels. -/
def mapAll : List (String × Tree α) → List (String × Tree β)
  | [] => []
  | (key, child) :: rest => (key, child.map) :: mapAll rest

end

mutual

theorem preorder_map : ∀ tree : Tree α, (tree.map change).preorder = tree.preorder.map change
  | node label children => by
    rw [map, preorder, preorder, preorderAll_mapAll children, List.map_cons]

theorem preorderAll_mapAll : ∀ children : List (String × Tree α),
    preorderAll (mapAll change children) = (preorderAll children).map change
  | [] => rfl
  | (key, child) :: rest => by
    rw [mapAll, preorderAll, preorderAll, preorder_map child, preorderAll_mapAll rest,
      List.map_append]

end

/-- A node with another label, below a node with another label. -/
def Visit.map (visit : Visit α) : Visit β :=
  ⟨visit.above.map fun above => (above.1, change above.2), change visit.label⟩

mutual

theorem visitsFrom_map : ∀ (above : Option (String × α)) (tree : Tree α),
    (tree.map change).visitsFrom (above.map fun above => (above.1, change above.2)) =
      (tree.visitsFrom above).map (Visit.map change)
  | above, node label children => by
    rw [map, visitsFrom, visitsFrom, childVisits_mapAll label children, List.map_cons]
    rfl

theorem childVisits_mapAll : ∀ (parent : α) (children : List (String × Tree α)),
    childVisits (change parent) (mapAll change children) =
      (childVisits parent children).map (Visit.map change)
  | parent, [] => rfl
  | parent, (key, child) :: rest => by
    rw [mapAll, childVisits, childVisits, List.map_append, ← visitsFrom_map _ child,
      childVisits_mapAll parent rest]
    rfl

end

theorem visits_map (tree : Tree α) :
    (tree.map change).visits = tree.visits.map (Visit.map change) :=
  visitsFrom_map change none tree

theorem label_map (tree : Tree α) : (tree.map change).label = change tree.label := by
  cases tree
  rfl

end Tree

section

variable (change : Value → Value)

/-- A node with other values in its filter. -/
def QueryNode.mapValues (node : QueryNode) : QueryNode :=
  { node with filter := node.filter.mapValues change }

/-- A query with other values in its filters. -/
def Query.mapValues (query : Query) : Query := query.map (QueryNode.mapValues change)

/-- A part with other values in its clauses. -/
def SelectPart.mapValues (part : SelectPart) : SelectPart :=
  { part with clauses := mapClauses change part.clauses }

/-- A select with other values in its clauses. -/
def Select.mapValues (select : Select) : Select :=
  { select with clauses := mapClauses change select.clauses }

/-- A text with other values bound to it. -/
def Sql.BoundText.mapValues (bound : BoundText) : BoundText := ⟨bound.sql, bound.params.map change⟩

end

/-! ### Compiling with other values -/

section

variable {change : Value → Value}

theorem QueryNode.join?_mapValues (change : Value → Value) (node : QueryNode)
    (above : Option (String × QueryNode)) :
    (node.mapValues change).join? (above.map fun above => (above.1, above.2.mapValues change)) =
      node.join? above := by
  cases above <;> rfl

/-- With other values a node has the same part, up to its clauses, or the same offence. -/
theorem QueryNode.part_mapValues (keeps : KeepsNull change) (node : QueryNode)
    (above : Option (String × QueryNode)) (aggregated : Bool) :
    (node.mapValues change).part (above.map fun above => (above.1, above.2.mapValues change))
        aggregated = (node.part above aggregated).map (SelectPart.mapValues change) := by
  have filtered : (node.mapValues change).filter.compile (node.mapValues change).table =
      (node.filter.compile node.table).map (mapClauses change) :=
    node.filter.compile_mapValues keeps node.table
  unfold QueryNode.part
  rw [join?_mapValues, Option.isSome_map, filtered]
  show (if above.isSome && node.isPaged then _ else _) = _
  split
  · rfl
  show (if node.select.isSome && !node.aggregates.isEmpty then _ else _) = _
  split
  · rfl
  exact bind_commutes fun projections => map_bind_commutes fun clauses => bind_commutes fun join =>
    bind_commutes fun order => rfl

namespace Query

theorem parts_mapValues (keeps : KeepsNull change) (aggregated : Bool)
    (visits : List (Tree.Visit QueryNode)) :
    parts aggregated (visits.map (Tree.Visit.map (QueryNode.mapValues change))) =
      (parts aggregated visits).map (List.map (SelectPart.mapValues change)) := by
  induction visits generalizing aggregated with
  | nil => rfl
  | cons visit rest ih =>
    have here : (visit.map (QueryNode.mapValues change)).label.part
        (visit.map (QueryNode.mapValues change)).above aggregated =
        (visit.label.part visit.above aggregated).map (SelectPart.mapValues change) :=
      visit.label.part_mapValues keeps visit.above aggregated
    rw [List.map_cons, parts, here, ih, parts]
    exact map_bind_commutes fun part => map_bind_commutes fun parts => rfl

theorem assemble_mapValues (change : Value → Value) (root : QueryNode) (parts : List SelectPart) :
    assemble (root.mapValues change) (parts.map (SelectPart.mapValues change)) =
      (assemble root parts).mapValues change := by
  have clauses : (parts.map (SelectPart.mapValues change)).flatMap SelectPart.clauses =
      mapClauses change (parts.flatMap SelectPart.clauses) := by
    induction parts with
    | nil => rfl
    | cons part rest ih =>
      rw [List.map_cons, List.flatMap_cons, List.flatMap_cons, ih, mapClauses_append]
      rfl
  rw [assemble, clauses, List.flatMap_map, List.filterMap_map, List.flatMap_map]
  rfl

/-- **With other values a query has the same select**, up to its clauses, or the same offence. -/
theorem compile_mapValues (keeps : KeepsNull change) (query : Query) :
    (query.mapValues change).compile = query.compile.map (Select.mapValues change) := by
  rw [compile, mapValues, Tree.visits_map, parts_mapValues keeps, Tree.label_map, compile]
  cases parts false query.visits with
  | error cause => rfl
  | ok parts => exact congrArg Except.ok (assemble_mapValues change query.label parts)

end Query

end

/-! ### SQL with other values -/

/-- Joined fragments without values stay as they are. -/
theorem Sql.Fragment.mapValues_join_eq {α : Type} {change : Value → Value} (separator : String)
    {write : α → Fragment} (fixed : ∀ element, (write element).mapValues change = write element)
    (list : List α) :
    (Fragment.join separator (list.map write)).mapValues change =
      Fragment.join separator (list.map write) := by
  rw [mapValues_join, List.map_map]
  exact congrArg _ (List.map_congr_left fun element _ => fixed element)

namespace Select

theorem fragment_mapValues (change : Value → Value) (select : Select) :
    (select.mapValues change).fragment = select.fragment.mapValues change := by
  have projection (projection : Projection) :
      projection.fragment.mapValues change = projection.fragment := by
    rcases projection with name | ⟨function, operand, label⟩
    · rfl
    · cases operand <;> rfl
  have shown : Fragment.mapValues change (.word "SELECT " ::
        if select.projections.isEmpty then [.word "*"]
        else Fragment.join ", " (select.projections.map Projection.fragment)) =
      .word "SELECT " :: if select.projections.isEmpty then [.word "*"]
        else Fragment.join ", " (select.projections.map Projection.fragment) := by
    refine congrArg (Piece.word "SELECT " :: ·) ?_
    split
    · rfl
    · exact Fragment.mapValues_join_eq ", " projection select.projections
  have joins :
      Fragment.mapValues change (select.joins.flatMap fun join => .word " " :: join.fragment) =
      select.joins.flatMap fun join => .word " " :: join.fragment := by
    rw [Fragment.mapValues, List.map_flatMap]
    rfl
  have order : Fragment.mapValues change (if select.order.isEmpty then []
        else .word " ORDER BY " :: Fragment.join ", " (select.order.map SortKey.fragment)) =
      if select.order.isEmpty then []
        else .word " ORDER BY " :: Fragment.join ", " (select.order.map SortKey.fragment) := by
    split
    · rfl
    · exact congrArg (Piece.word " ORDER BY " :: ·)
        (Fragment.mapValues_join_eq ", " (fun _ => rfl) select.order)
  have page : (pageFragment select.take select.skip).mapValues change =
      pageFragment select.take select.skip := by
    cases select.take <;> cases select.skip <;> rfl
  unfold fragment
  rw [Fragment.mapValues_append, Fragment.mapValues_append, Fragment.mapValues_append,
    Fragment.mapValues_append, Fragment.mapValues_append, shown, joins, order, page,
    ← Clause.whereFragment_mapClauses]
  rfl

end Select

/-- **With other values a query has the same text**, with the other values bound to it, or is refused
for the same reason. -/
theorem Query.build_mapValues {change : Value → Value} (keeps : KeepsNull change) (query : Query) :
    (query.mapValues change).build = query.build.map (BoundText.mapValues change) := by
  rw [build, compile_mapValues keeps, build]
  cases query.compile with
  | error cause => rfl
  | ok select =>
    show Except.ok (select.mapValues change).fragment.bound =
      .ok (select.fragment.bound.mapValues change)
    rw [select.fragment_mapValues, Fragment.bound, Fragment.text_mapValues, Fragment.params_mapValues]
    rfl

end SqlCraft
