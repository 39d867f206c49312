/-
**Queries written on a walk.**

A query can be written without its parts: on one walk over the tree that hands on five things. These are a
flag for whether there was a node with aggregates, and four lists of what stands in the text: what is shown,
the terms of the condition with the values of their placeholders, the joins, and the order. Behind the walk
the text is put together, and the values are the ones that were collected.

The flag is never taken back on the way up, and no list is started anew. So the walk gives what the parts
give that the nodes have in pre-order:

* `WalkState`, `QueryNode.emit` — what is handed on, and what a node does with it;
* `Query.emit` — the walk and the text behind it;
* `QueryNode.emit_eq` — a node adds its part;
* `Query.emit_eq` — the walk builds what the query is built to, with the same offences.
-/

import SqlCraft.Proofs.Filter.WhereClause
import SqlCraft.Proofs.Tree
import SqlCraft.Query.Select

namespace SqlCraft

open Sql (BoundText ColumnName Fragment Piece qualified quote)

/-! ### One node -/

/-- What is gathered on a walk over a query. -/
structure WalkState where
  /-- Whether there was a node with aggregates. -/
  aggregated : Bool
  shown : List String
  condition : WhereClause
  joins : List String
  order : List String

namespace WalkState

/-- Nothing is gathered yet. -/
def empty : WalkState := ⟨false, [], .empty, [], []⟩

/-- One more thing is shown. -/
def addShown (state : WalkState) (text : String) : WalkState :=
  { state with shown := state.shown ++ [text] }

/-- One more thing is sorted by. -/
def addOrder (state : WalkState) (text : String) : WalkState :=
  { state with order := state.order ++ [text] }

end WalkState

namespace QueryNode

/-- An aggregate is shown. -/
def emitAggregate (node : QueryNode) (state : WalkState) (aggregate : Aggregate) : Compiled WalkState :=
  let text (operand : String) : String :=
    aggregate.function.name ++ "(" ++ operand ++ ") AS " ++ quote aggregate.label
  match aggregate.field with
  | some field => (node.table.require field).map fun _ =>
      state.addShown (text (qualified node.table.name field))
  | none => .ok (state.addShown (text "*"))

/-- A field that is selected is shown. -/
def emitField (node : QueryNode) (state : WalkState) (field : String) : Compiled WalkState :=
  (node.table.require field).map fun _ => state.addShown (qualified node.table.name field)

/-- What the node has to show is shown. Aggregates raise the flag, and fields are shown if it is not raised. -/
def emitShown (node : QueryNode) (state : WalkState) : Compiled WalkState :=
  if !node.aggregates.isEmpty then
    node.aggregates.foldlM node.emitAggregate { state with aggregated := true }
  else if state.aggregated then .ok state
  else match node.select with
    | some fields => fields.foldlM node.emitField state
    | none => .ok { state with
        shown := state.shown ++ node.table.columnNames.map (qualified node.table.name) }

/-- What the node asks is asked. -/
def emitCondition (node : QueryNode) (state : WalkState) : Compiled WalkState :=
  (node.filter.emit node.table).map fun asked =>
    { state with condition := state.condition.extend asked }

/-- The node is joined to the one above it. -/
def emitJoin (node : QueryNode) (above : Option (String × QueryNode)) (state : WalkState) :
    Compiled WalkState :=
  match above with
  | none => .ok state
  | some (key, parent) => (Join.choose parent.table node.table key).map fun join =>
      { state with joins := state.joins ++ ["LEFT JOIN " ++ quote join.table ++ " ON " ++
        qualified join.left.table join.left.field ++ " = " ++
        qualified join.right.table join.right.field] }

/-- A field is sorted by. -/
def emitSortKey (node : QueryNode) (state : WalkState) (entry : String × Direction) :
    Compiled WalkState :=
  (node.table.require entry.1).map fun _ =>
    state.addOrder (qualified node.table.name entry.1 ++ " " ++ entry.2.keyword)

/-- A node is passed. -/
def emit (state : WalkState) (visit : Tree.Visit QueryNode) : Compiled WalkState := do
  let node := visit.label
  if visit.above.isSome && node.isPaged then
    throw (.descriptor (.pagedInclude node.table.name))
  if node.select.isSome && !node.aggregates.isEmpty then
    throw (.descriptor (.selectWithAggregate node.table.name))
  let state ← node.emitShown state
  let state ← node.emitCondition state
  let state ← node.emitJoin visit.above state
  node.orderBy.foldlM node.emitSortKey state

end QueryNode

/-! ### The text -/

/-- The words for a page. -/
def pageWords : (take skip : Option Nat) → List String
  | some take, some skip => [s!"LIMIT {take} OFFSET {skip}"]
  | some take, none => [s!"LIMIT {take}"]
  | none, some skip => [s!"LIMIT {Select.maxLimit} OFFSET {skip}"]
  | none, none => []

/-- What is gathered as the text of a query with the given root, and its values. -/
def WalkState.bound (root : QueryNode) (state : WalkState) : BoundText :=
  let list := if state.shown.isEmpty then "*" else String.intercalate ", " state.shown
  let joins := if state.joins.isEmpty then [] else [String.intercalate " " state.joins]
  let condition := if state.condition.isEmpty then [] else ["WHERE " ++ state.condition.sql]
  let order := if state.order.isEmpty then []
    else ["ORDER BY " ++ String.intercalate ", " state.order]
  ⟨String.intercalate " " (["SELECT " ++ list, "FROM " ++ quote root.table.name] ++ joins ++
      condition ++ order ++ pageWords root.take root.skip),
    state.condition.params⟩

/-- A query is written on a walk. -/
def Query.emit (query : Query) : Compiled BoundText :=
  (query.walk QueryNode.emit .empty).map (WalkState.bound query.label)

/-! ### What a node adds -/

/-- The part of a node behind what is gathered. -/
def WalkState.add (state : WalkState) (node : QueryNode) (part : SelectPart) : WalkState where
  aggregated := state.aggregated || !node.aggregates.isEmpty
  shown := state.shown ++ part.projections.map fun projection => projection.fragment.text
  condition := state.condition.extend (.ofFragments (Clause.fragments part.clauses))
  joins := state.joins ++ part.join.toList.map fun join => join.fragment.text
  order := state.order ++ part.order.map fun key => key.fragment.text

theorem WalkState.foldl_addShown {α : Type} (view : α → String) (list : List α) (state : WalkState) :
    list.foldl (fun state element => state.addShown (view element)) state =
      { state with shown := state.shown ++ list.map view } := by
  induction list generalizing state with
  | nil => simp
  | cons element rest ih =>
    rw [List.foldl_cons, ih]
    simp [addShown]

theorem WalkState.foldl_addOrder {α : Type} (view : α → String) (list : List α) (state : WalkState) :
    list.foldl (fun state element => state.addOrder (view element)) state =
      { state with order := state.order ++ list.map view } := by
  induction list generalizing state with
  | nil => simp
  | cons element rest ih =>
    rw [List.foldl_cons, ih]
    simp [addOrder]

theorem Projection.text_aggregate (function : AggregateFunction) (operand : Option ColumnName)
    (label : String) : (Projection.aggregate function operand label).fragment.text =
      function.name ++ "(" ++ (operand.elim "*" fun name => qualified name.table name.field) ++
        ") AS " ++ quote label := by
  cases operand with
  | none =>
    simp only [fragment, Piece.text, Fragment.text_append, Fragment.text_cons, Fragment.text_nil,
      String.append_assoc, String.append_empty, Option.elim_none]
  | some name =>
    simp only [fragment, Piece.text, Fragment.text_append, Fragment.text_cons, Fragment.text_nil,
      ColumnName.text_fragment, String.append_assoc, String.append_empty, Option.elim_some]

theorem Join.text_fragment (join : Join) :
    join.fragment.text = "LEFT JOIN " ++ quote join.table ++ " ON " ++
      qualified join.left.table join.left.field ++ " = " ++
      qualified join.right.table join.right.field := by
  simp [fragment, ColumnName.text_fragment, Piece.text, String.append_assoc]

theorem SortKey.text_fragment (key : SortKey) : key.fragment.text =
    qualified key.column.table key.column.field ++ " " ++ key.direction.keyword := by
  simp [fragment, ColumnName.text_fragment, Piece.text, String.append_assoc]

namespace QueryNode

theorem columnOf_eq (node : QueryNode) (field : String) :
    node.columnOf field = (node.table.require field).map fun _ => ⟨node.table.name, field⟩ := by
  unfold columnOf
  cases node.table.require field <;> rfl

theorem emitAggregate_eq (node : QueryNode) (state : WalkState) (aggregate : Aggregate) :
    node.emitAggregate state aggregate = (node.aggregateProjection aggregate).map fun projection =>
      state.addShown projection.fragment.text := by
  unfold emitAggregate aggregateProjection
  cases aggregate.field with
  | none =>
    have text := Projection.text_aggregate aggregate.function none aggregate.label
    exact congrArg (fun text => Except.ok (state.addShown text)) text.symm
  | some field =>
    have text := Projection.text_aggregate aggregate.function (some ⟨node.table.name, field⟩)
      aggregate.label
    simp only [columnOf_eq]
    cases node.table.require field with
    | error cause => rfl
    | ok => exact congrArg (fun text => Except.ok (state.addShown text)) text.symm

theorem emitField_eq (node : QueryNode) (state : WalkState) (field : String) :
    node.emitField state field = ((node.columnOf field).map Projection.column).map fun projection =>
      state.addShown projection.fragment.text := by
  have text := ColumnName.text_fragment ⟨node.table.name, field⟩
  rw [emitField, columnOf_eq]
  cases node.table.require field with
  | error cause => rfl
  | ok => exact congrArg (fun text => Except.ok (state.addShown text)) text.symm

theorem emitSortKey_eq (node : QueryNode) (state : WalkState) (entry : String × Direction) :
    node.emitSortKey state entry = (node.sortKey entry).map fun key =>
      state.addOrder key.fragment.text := by
  have text := SortKey.text_fragment ⟨⟨node.table.name, entry.1⟩, entry.2⟩
  rw [emitSortKey, sortKey, columnOf_eq]
  cases node.table.require entry.1 with
  | error cause => rfl
  | ok => exact congrArg (fun text => Except.ok (state.addOrder text)) text.symm

theorem emitShown_eq (node : QueryNode) (state : WalkState) :
    node.emitShown state = (node.projections state.aggregated).map fun projections =>
      { state with
        aggregated := state.aggregated || !node.aggregates.isEmpty
        shown := state.shown ++ projections.map fun projection => projection.fragment.text } := by
  unfold emitShown projections
  cases aggregates : node.aggregates.isEmpty with
  | false =>
    simp only [Bool.not_false, if_true, foldlM_eq_map node.emitAggregate_eq,
      WalkState.foldl_addShown, Bool.or_true]
  | true =>
    simp only [Bool.not_true, Bool.false_eq_true, if_false, Bool.or_false]
    cases behind : state.aggregated with
    | true => simp [Except.map, ← behind]
    | false =>
      simp only [Bool.false_eq_true, if_false]
      cases node.select with
      | some fields =>
        simp only [foldlM_eq_map node.emitField_eq, WalkState.foldl_addShown, behind]
      | none =>
        have text : (node.table.columnNames.map (qualified node.table.name)) =
            (node.table.columnNames.map fun field => Projection.column ⟨node.table.name, field⟩).map
              fun projection => projection.fragment.text := by
          rw [List.map_map]
          exact List.map_congr_left fun field _ => (ColumnName.text_fragment ⟨_, field⟩).symm
        simp only [text, Except.map]

theorem emitCondition_eq (node : QueryNode) (state : WalkState) :
    node.emitCondition state = (node.filter.compile node.table).map fun clauses =>
      { state with
        condition := state.condition.extend (.ofFragments (Clause.fragments clauses)) } := by
  rw [emitCondition, Filter.emit_eq]
  cases node.filter.compile node.table <;> rfl

theorem emitJoin_eq (node : QueryNode) (above : Option (String × QueryNode)) (state : WalkState) :
    node.emitJoin above state = (node.join? above).map fun join =>
      { state with joins := state.joins ++ join.toList.map fun join => join.fragment.text } := by
  cases above with
  | none => simp [emitJoin, join?, Except.map]
  | some reached =>
    obtain ⟨key, parent⟩ := reached
    simp only [emitJoin, join?]
    cases Join.choose parent.table node.table key with
    | error cause => rfl
    | ok join => simp [Except.map, Join.text_fragment]

/-- **A node adds its part to what is gathered.** -/
theorem emit_eq (state : WalkState) (visit : Tree.Visit QueryNode) :
    emit state visit = (visit.label.part visit.above state.aggregated).map (state.add visit.label) := by
  obtain ⟨above, node⟩ := visit
  unfold emit part
  by_cases paged : above.isSome && node.isPaged
  · rw [if_pos paged, if_pos paged]
    rfl
  rw [if_neg paged, if_neg paged]
  by_cases both : node.select.isSome && !node.aggregates.isEmpty
  · rw [if_pos both, if_pos both]
    rfl
  rw [if_neg both, if_neg both, emitShown_eq]
  refine map_bind_commutes fun projections => ?_
  rw [emitCondition_eq]
  refine map_bind_commutes fun clauses => ?_
  rw [emitJoin_eq]
  refine map_bind_commutes fun join => ?_
  rw [foldlM_eq_map node.emitSortKey_eq]
  cases node.orderBy.mapM node.sortKey with
  | error cause => rfl
  | ok order =>
    have sorted := WalkState.foldl_addOrder (fun key : SortKey => key.fragment.text) order
    exact congrArg Except.ok (sorted _)

end QueryNode

/-! ### The whole walk -/

/-- The parts of visited nodes behind what is gathered. -/
def WalkState.addAll (state : WalkState) (nodes : List QueryNode) (parts : List SelectPart) :
    WalkState where
  aggregated := state.aggregated || nodes.any fun node => !node.aggregates.isEmpty
  shown := state.shown ++ (parts.flatMap SelectPart.projections).map fun projection =>
    projection.fragment.text
  condition := state.condition.extend
    (.ofFragments (Clause.fragments (parts.flatMap SelectPart.clauses)))
  joins := state.joins ++ (parts.filterMap SelectPart.join).map fun join => join.fragment.text
  order := state.order ++ (parts.flatMap SelectPart.order).map fun key => key.fragment.text

theorem WalkState.addAll_nil (state : WalkState) : state.addAll [] [] = state := by
  simp [addAll, Clause.fragments]

theorem WalkState.addAll_add (state : WalkState) (node : QueryNode) (nodes : List QueryNode)
    (part : SelectPart) (parts : List SelectPart) :
    (state.add node part).addAll nodes parts = state.addAll (node :: nodes) (part :: parts) := by
  cases joined : part.join <;>
    simp [add, addAll, joined, WhereClause.extend, WhereClause.ofFragments, Clause.fragments_eq_map,
      Bool.or_assoc]

/-- **A walk gathers the parts of the nodes**, each made with the flag as the nodes before leave it. -/
theorem Query.foldlM_emit_eq (visits : List (Tree.Visit QueryNode)) (state : WalkState) :
    visits.foldlM QueryNode.emit state = (parts state.aggregated visits).map
      (state.addAll (visits.map Tree.Visit.label)) := by
  induction visits generalizing state with
  | nil => exact congrArg Except.ok state.addAll_nil.symm
  | cons visit rest ih =>
    rw [List.foldlM_cons, QueryNode.emit_eq, parts]
    refine map_bind_commutes fun part => ?_
    have behind : (state.add visit.label part).aggregated =
        (state.aggregated || !visit.label.aggregates.isEmpty) := rfl
    rw [ih, behind]
    cases parts (state.aggregated || !visit.label.aggregates.isEmpty) rest with
    | error cause => rfl
    | ok later => exact congrArg Except.ok (state.addAll_add visit.label _ part later)

/-! ### The text behind the walk -/

/-- Texts with a separator between them are the first one, and each other one with the separator. -/
theorem intercalate_cons_eq_join (separator first : String) (rest : List String) :
    separator.intercalate (first :: rest) = first ++ String.join (rest.map (separator ++ ·)) := by
  induction rest generalizing first with
  | nil => simp
  | cons second rest ih => simp [ih, String.append_assoc]

/-- Texts behind a list, if there are any, with a separator between them and a blank in front. -/
theorem join_listed (separator : String) (texts : List String) :
    String.join ((if texts.isEmpty then [] else [separator.intercalate texts]).map (separator ++ ·)) =
      String.join (texts.map (separator ++ ·)) := by
  cases texts with
  | nil => rfl
  | cons first rest => simp [intercalate_cons_eq_join, String.append_assoc]

/-- One text with a blank in front. -/
theorem join_spaced (word text : String) :
    String.join ([word ++ text].map (" " ++ ·)) = (" " ++ word) ++ text := by
  simp [String.append_assoc]

theorem Clause.text_whereFragment (clauses : List Clause) :
    (whereFragment clauses).text = String.join ((if clauses.isEmpty then []
      else ["WHERE " ++ (WhereClause.ofFragments (fragments clauses)).sql]).map (" " ++ ·)) := by
  unfold whereFragment
  split
  · rfl
  · rw [join_spaced, WhereClause.sql_ofFragments]
    exact Fragment.text_cons _ _

namespace Select

theorem text_joins (joins : List Join) :
    Fragment.text (joins.flatMap fun join => .word " " :: join.fragment) =
      String.join ((joins.map fun join => join.fragment.text).map (" " ++ ·)) := by
  induction joins with
  | nil => rfl
  | cons join rest ih =>
    rw [List.flatMap_cons, Fragment.text_append, ih, Fragment.text_cons]
    simp [Piece.text, String.append_assoc]

theorem text_order (order : List SortKey) :
    Fragment.text (if order.isEmpty then []
      else .word " ORDER BY " :: Fragment.join ", " (order.map SortKey.fragment)) =
      String.join ((if order.isEmpty then []
        else ["ORDER BY " ++ String.intercalate ", " (order.map fun key => key.fragment.text)]).map
          (" " ++ ·)) := by
  split
  · rfl
  · rw [join_spaced, Fragment.text_cons, Fragment.text_join, List.map_map]
    rfl

theorem text_page (take skip : Option Nat) :
    (pageFragment take skip).text = String.join ((pageWords take skip).map (" " ++ ·)) := by
  have opens (text : String) : " LIMIT " ++ text = " " ++ ("LIMIT " ++ text) := by
    rw [← String.append_assoc]
    rfl
  cases take <;> cases skip <;>
    simp [pageFragment, pageWords, Piece.text, String.append_assoc, toString, opens]

theorem text_shown (projections : List Projection) :
    Fragment.text (if projections.isEmpty then [.word "*"]
      else Fragment.join ", " (projections.map Projection.fragment)) =
      if projections.isEmpty then "*"
      else String.intercalate ", " (projections.map fun projection => projection.fragment.text) := by
  split
  · rfl
  · rw [Fragment.text_join, List.map_map]
    rfl

end Select

/-! ### The values behind the walk -/

theorem Sql.Fragment.params_join_nil {α : Type} (view : α → Fragment)
    (unbound : ∀ element, (view element).params = []) (separator : String) (list : List α) :
    (Fragment.join separator (list.map view)).params = [] := by
  rw [Fragment.params_join, List.flatMap_map]
  exact List.flatMap_eq_nil_iff.2 fun element _ => unbound element

theorem Projection.params_fragment (projection : Projection) : projection.fragment.params = [] := by
  cases projection with
  | column name => rfl
  | aggregate function operand label => cases operand <;> rfl

theorem Clause.params_whereFragment (clauses : List Clause) :
    (whereFragment clauses).params = (WhereClause.ofFragments (fragments clauses)).params := by
  cases clauses with
  | nil => rfl
  | cons clause rest => exact (WhereClause.params_ofFragments _).symm

/-- **The values of a select are those of its clauses.** -/
theorem Select.params_fragment (select : Select) :
    select.fragment.params = (WhereClause.ofFragments (Clause.fragments select.clauses)).params := by
  have shown : Fragment.params (if select.projections.isEmpty then [.word "*"]
      else Fragment.join ", " (select.projections.map Projection.fragment)) = [] := by
    split
    · rfl
    · exact Fragment.params_join_nil Projection.fragment Projection.params_fragment ", " _
  have joins : Fragment.params (select.joins.flatMap fun join => .word " " :: join.fragment) = [] := by
    induction select.joins with
    | nil => rfl
    | cons join rest ih =>
      rw [List.flatMap_cons, Fragment.params_append, ih]
      rfl
  have order : Fragment.params (if select.order.isEmpty then []
      else .word " ORDER BY " :: Fragment.join ", " (select.order.map SortKey.fragment)) = [] := by
    split
    · rfl
    · exact Fragment.params_join_nil SortKey.fragment (fun _ => rfl) ", " _
  have page : (pageFragment select.take select.skip).params = [] := by
    cases select.take <;> cases select.skip <;> rfl
  simp only [fragment, List.cons_append, Fragment.params_append, Fragment.params_word,
    Fragment.params_identifier, Fragment.params_nil, shown, joins, order, page,
    Clause.params_whereFragment, List.nil_append, List.append_nil]

/-- What is gathered from the parts of a query has the text and the values of its select. -/
theorem WalkState.bound_addAll (root : QueryNode) (nodes : List QueryNode) (parts : List SelectPart) :
    (empty.addAll nodes parts).bound root = (Query.assemble root parts).fragment.bound := by
  have condition : (empty.addAll nodes parts).condition =
      .ofFragments (Clause.fragments (parts.flatMap SelectPart.clauses)) := rfl
  have asked : (WhereClause.ofFragments (Clause.fragments (parts.flatMap SelectPart.clauses))).isEmpty =
      (parts.flatMap SelectPart.clauses).isEmpty := by
    simp [WhereClause.isEmpty, WhereClause.ofFragments, Clause.fragments_eq_map]
  have table : " " ++ ("FROM " ++ quote root.table.name) = " FROM " ++ quote root.table.name := by
    rw [← String.append_assoc]
    rfl
  unfold bound Fragment.bound
  rw [Select.params_fragment, condition, asked]
  refine congrArg₂ BoundText.mk ?_ rfl
  simp only [List.cons_append, List.nil_append, intercalate_cons_eq_join, List.map_cons, List.map_append,
    String.join_cons, String.join_append, join_listed]
  rw [Select.fragment]
  simp only [List.cons_append, Fragment.text_append, Fragment.text_cons, Fragment.text_nil, Piece.text,
    Select.text_shown, Select.text_joins, Clause.text_whereFragment, Select.text_order, Select.text_page]
  simp only [addAll, empty, Query.assemble, List.isEmpty_map, table, List.nil_append,
    String.append_assoc, String.append_empty]
  rfl

/-- **A query is written on a walk** as it is built, or refused for the same reason. -/
theorem Query.emit_eq (query : Query) : query.emit = query.build := by
  rw [emit, build, compile, Tree.walk_eq_foldlM, foldlM_emit_eq]
  have flag : WalkState.empty.aggregated = false := rfl
  rw [flag]
  cases parts false query.visits with
  | error cause => rfl
  | ok found => exact congrArg Except.ok (WalkState.bound_addAll _ _ found)

end SqlCraft
