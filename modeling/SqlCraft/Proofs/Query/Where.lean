/-
**The condition of a query.**

The text of a select is read as tokens. Only its `WHERE` part has values, and the tokens of this part
stand for the filters of all nodes: all of them must hold, each on the columns of its own table.

* `Select.shown_plain`, `Select.page_plain` — there are no values, and no second `WHERE`, around it;
* `Select.condition?_eq` — the condition that is found in a select is that of its clauses;
* `conjunction_tells` — the clauses of all nodes are read as one condition;
* `build_condition` — what the condition of a query is read as.
-/

import SqlCraft.Proofs.Filter.Meaning
import SqlCraft.Proofs.Query.Parts
import SqlCraft.Proofs.Query.Tokens
import SqlCraft.Proofs.Query.Walk
import SqlCraft.Proofs.Sql.Condition

namespace SqlCraft

open Sql
open List (Forall₂)

/-! ### Around the condition -/

/-- The token is neither a value nor the start of a condition. -/
def Sql.Token.Plain (token : Token) : Prop := token.value? = none ∧ token ≠ .symbol "WHERE"

theorem Sql.values_of_plain {tokens : List Token} (plain : ∀ token ∈ tokens, token.Plain) :
    values tokens = [] :=
  List.filterMap_eq_nil_iff.2 fun token inside => (plain token inside).1

namespace Select

theorem plain_column (column : ColumnName) : ∀ token ∈ column.tokens, token.Plain := by
  simp [ColumnName.tokens, Token.Plain, Token.value?]

theorem plain_projection (projection : Projection) : ∀ token ∈ projection.tokens, token.Plain := by
  cases projection with
  | column name => exact plain_column name
  | aggregate function operand label =>
    have name : function.name ≠ "WHERE" := by cases function <;> decide
    cases operand with
    | none => simp [Projection.tokens, Token.Plain, Token.value?, name]
    | some column =>
      simp [Projection.tokens, ColumnName.tokens, Token.Plain, Token.value?, name]

theorem plain_join (join : Join) : ∀ token ∈ join.tokens, token.Plain := by
  simp [Join.tokens, ColumnName.tokens, Token.Plain, Token.value?]

theorem plain_sortKey (key : SortKey) : ∀ token ∈ key.tokens, token.Plain := by
  have keyword : key.direction.keyword ≠ "WHERE" := by cases key.direction <;> decide
  simp [SortKey.tokens, ColumnName.tokens, Token.Plain, Token.value?, keyword]

theorem plain_shown (select : Select) : ∀ token ∈ select.shown, token.Plain := by
  have projections : ∀ token ∈ (if select.projections.isEmpty then [.symbol "*"]
      else commas (select.projections.map Projection.tokens)), token.Plain := by
    split
    · simp [Token.Plain, Token.value?]
    · refine forall_mem_commas ⟨rfl, by decide⟩ fun part inside => ?_
      obtain ⟨projection, -, rfl⟩ := List.mem_map.1 inside
      exact plain_projection projection
  have joins : ∀ token ∈ select.joins.flatMap Join.tokens, token.Plain := by
    intro token inside
    obtain ⟨join, -, within⟩ := List.mem_flatMap.1 inside
    exact plain_join join token within
  intro token inside
  simp only [shown, List.mem_append, List.mem_cons, List.not_mem_nil, or_false] at inside
  rcases inside with ((rfl | shows) | rfl | rfl) | joined
  · simp [Token.Plain, Token.value?]
  · exact projections token shows
  · simp [Token.Plain, Token.value?]
  · simp [Token.Plain, Token.value?]
  · exact joins token joined

theorem plain_paged (take skip : Option Nat) : ∀ token ∈ paged take skip, token.Plain := by
  have number (count : Nat) : (Token.symbol (toString count)).Plain :=
    ⟨rfl, fun same => number_ne rfl count (Token.symbol.inj same)⟩
  have limit : (Token.symbol "LIMIT").Plain := ⟨rfl, by decide⟩
  have offset : (Token.symbol "OFFSET").Plain := ⟨rfl, by decide⟩
  cases take <;> cases skip <;>
    simp only [paged, List.forall_mem_cons, List.not_mem_nil, false_implies, implies_true, number,
      limit, offset, and_self]

theorem plain_page (select : Select) : ∀ token ∈ select.page, token.Plain := by
  rw [page, List.forall_mem_append]
  refine ⟨?_, plain_paged select.take select.skip⟩
  unfold sorted
  split
  · simp
  · rw [List.forall_mem_append]
    refine ⟨by simp [Token.Plain, Token.value?], ?_⟩
    refine forall_mem_commas ⟨rfl, by decide⟩ fun part inside => ?_
    obtain ⟨key, -, rfl⟩ := List.mem_map.1 inside
    exact plain_sortKey key

/-- Behind the condition, a select goes on with the start of a part, if at all. -/
theorem page_opens (select : Select) : ∀ token ∈ select.page.head?, token.isClause := by
  unfold page sorted
  split
  · cases select.take <;> cases select.skip <;> simp [paged, Token.isClause]
  · simp [Token.isClause]

/-- **The condition that is found in a select is that of its clauses.** -/
theorem condition?_eq (select : Select) {condition : List Token}
    (plain : ∀ token ∈ condition, token.isClause = false) :
    condition? (select.shown ++
        ((if select.clauses.isEmpty then [] else .symbol "WHERE" :: condition) ++ select.page)) =
      if select.clauses.isEmpty then none else some condition := by
  have absent : .symbol "WHERE" ∉ select.shown := fun inside => (plain_shown select _ inside).2 rfl
  have absentToo : .symbol "WHERE" ∉ select.page := fun inside => (plain_page select _ inside).2 rfl
  unfold condition?
  split
  · rw [List.nil_append, behind?_of_not_mem]
    · rfl
    · exact fun inside => (List.mem_append.1 inside).elim absent absentToo
  · rw [List.cons_append, behind?_append absent, Option.map_some]
    congr 1
    have ends : select.page.takeWhile (fun token => !token.isClause) = [] := by
      have opens := page_opens select
      generalize select.page = page at opens
      cases page with
      | nil => rfl
      | cons token rest => simp [opens token rfl]
    rw [List.takeWhile_append_of_pos fun token inside => by simp [plain token inside], ends,
      List.append_nil]

end Select

/-! ### The clauses of all nodes -/

theorem fragments_append (left right : List Clause) :
    Clause.fragments (left ++ right) = Clause.fragments left ++ Clause.fragments right := by
  simp only [Clause.fragments_eq_map, List.map_append]

/-- The clauses of filters are read as conjuncts, with the value that all filters hold. -/
theorem filters_read {nodes : List QueryNode} {own : List (List Clause)}
    (compiled : Forall₂ (fun node clauses => node.filter.compile node.table = .ok clauses) nodes own) :
    ∃ parts, Forall₂ (fun fragment part => Fragment.Reads fragment [part])
        (Clause.fragments own.flatten) parts ∧
      ∀ relation row, Predicate.allTruth relation row parts.flatten =
        .all (nodes.map fun node =>
          node.filter.truth relation fun field => row ⟨node.table.name, field⟩) := by
  induction compiled with
  | nil => exact ⟨[], .nil, fun _ _ => rfl⟩
  | @cons node clauses nodes own here _ ih =>
    obtain ⟨parts, reads, truth⟩ := compileCriteria_reads node.table node.filter here
    obtain ⟨others, readsRest, truthRest⟩ := ih
    refine ⟨parts ++ others, ?_, fun relation row => ?_⟩
    · rw [List.flatten_cons, fragments_append]
      exact List.rel_append reads readsRest
    · rw [List.flatten_append, Predicate.allTruth_eq, List.map_append, Truth.all_append,
        ← Predicate.allTruth_eq, ← Predicate.allTruth_eq, truth, truthRest]
      rfl

/-- **The clauses of filters are read as one condition**, that all filters hold. -/
theorem conjunction_tells {nodes : List QueryNode} {own : List (List Clause)}
    (compiled : Forall₂ (fun node clauses => node.filter.compile node.table = .ok clauses) nodes own) :
    ∃ tokens, (Clause.conjunction own.flatten).Tells tokens ∧
      (∀ token ∈ tokens, token.isClause = false) ∧
      ∃ predicate, Predicate.ofTokens? tokens = some predicate ∧ ∀ relation row,
        predicate.truth relation row = .all (nodes.map fun node =>
          node.filter.truth relation fun field => row ⟨node.table.name, field⟩) := by
  obtain ⟨parts, reads, truth⟩ := filters_read compiled
  obtain ⟨tokens, tells, plain, stands⟩ := Fragment.tells_conjunction reads
  refine ⟨tokens, tells, plain, _, stands, fun relation row => ?_⟩
  rw [Predicate.truth_oneOf_singleton, truth]

/-- No clauses are what no filter asks for. -/
theorem clauses_eq_nil_iff {nodes : List QueryNode} {own : List (List Clause)}
    (compiled : Forall₂ (fun node clauses => node.filter.compile node.table = .ok clauses) nodes own) :
    own.flatten = [] ↔ ∀ node ∈ nodes, node.filter = [] := by
  induction compiled with
  | nil => simp
  | @cons node clauses nodes own here _ ih =>
    rw [List.flatten_cons, List.append_eq_nil_iff, ih, compileCriteria_eq_nil_iff here,
      List.forall_mem_cons]

namespace Query

/-- **A query asks what its filters ask, with their values in their places.** Its text has one
placeholder outside of quoted names for each parameter, all of them in its `WHERE` part; this part
stands for all filters of the nodes, each on the columns of the node's own table, and is there unless
no filter asks anything. Text and parameters are what a walk over the nodes collects in two lists that
nothing ties to each other. -/
theorem build_condition (query : Query) (built : Sql.BoundText) (compiled : query.build = .ok built) :
    query.emit = .ok built ∧ openMarks false built.sql.toList = built.params.length ∧
    ∃ tokens, tokens? built.sql built.params = some tokens ∧
      built.params = values ((condition? tokens).getD []) ∧
      (condition? tokens = none ↔ ∀ node ∈ query.preorder, node.filter = []) ∧
      ∃ predicate, Predicate.ofTokens? ((condition? tokens).getD []) = some predicate ∧
        ∀ relation row, predicate.truth relation row =
          .all (query.preorder.map fun node =>
            node.filter.truth relation fun field => row ⟨node.table.name, field⟩) := by
  have walked : query.emit = .ok built := query.emit_eq.trans compiled
  obtain ⟨select, ran, rfl⟩ := build_eq_ok compiled
  obtain ⟨own, clauses, filters⟩ := compile_filters ran
  obtain ⟨condition, asked, plain, predicate, stands, truth⟩ := conjunction_tells filters
  rw [← clauses] at asked
  have read := (select.tells asked).tokens?_eq
  have found := select.condition?_eq plain
  have shown := values_of_plain (Select.plain_shown select)
  have page := values_of_plain (Select.plain_page select)
  have none := clauses_eq_nil_iff filters
  rw [← clauses] at none
  refine ⟨walked, openMarks_of_tokens? read, _, read, ?_, ?_, predicate, ?_, truth⟩
  · refine (values_of_tokens? read).trans ?_
    rw [found, values_append, values_append, shown, page]
    split <;> simp
  · rw [found, ← none]
    cases select.clauses <;> simp
  · rw [found]
    split
    · rename_i empty
      rw [List.isEmpty_iff.1 empty] at asked
      have nothing : condition = [] := asked.eq_nil
      rw [← nothing]
      exact stands
    · exact stands

/-- Names with a placeholder, a backtick or the word that starts a condition are names. -/
theorem build_condition_quoted :
    let singers : Table :=
      ⟨"who?", [{ name := "id", type := .int }, { name := "na\x60me?", type := .varchar }]⟩
    let songs : Table := ⟨" WHERE ",
      [{ name := "by", type := .int, foreignKey := some { table := "who?", field := "id" } },
        { name := "AND", type := .int }]⟩
    let asked : Filter :=
      Filter.empty.or [Filter.empty.isNull "AND", Filter.empty.op "AND" .gt (3 : Int64)]
    let query : Query := .node { table := singers, filter := Filter.empty.eq "na\x60me?" "?" }
      [("songs", .node
        { table := songs, select := some ["AND"], orderBy := [("by", .desc)], filter := asked } [])]
    let built : Sql.BoundText := ⟨"SELECT \x60who?\x60.\x60id\x60, \x60who?\x60.\x60na\x60\x60me?\x60, " ++
      "\x60 WHERE \x60.\x60AND\x60 FROM \x60who?\x60 LEFT JOIN \x60 WHERE \x60 ON " ++
      "\x60who?\x60.\x60id\x60 = \x60 WHERE \x60.\x60by\x60 " ++
      "WHERE \x60who?\x60.\x60na\x60\x60me?\x60 = ? AND " ++
      "(\x60 WHERE \x60.\x60AND\x60 IS NULL OR \x60 WHERE \x60.\x60AND\x60 > ?) " ++
      "ORDER BY \x60 WHERE \x60.\x60by\x60 DESC", [.text "?", .int 3]⟩
    query.build = .ok built ∧ query.emit = .ok built ∧ openMarks false built.sql.toList = 2 ∧
    ∃ tokens, tokens? built.sql built.params = some tokens ∧
      built.params = values ((condition? tokens).getD []) ∧ condition? tokens ≠ none ∧
      ∃ predicate, Predicate.ofTokens? ((condition? tokens).getD []) = some predicate ∧
        ∀ relation row, predicate.truth relation row =
          .all (query.preorder.map fun node =>
            node.filter.truth relation fun field => row ⟨node.table.name, field⟩) := by
  intro singers songs asked query built
  have compiled : query.build = .ok built := by decide +kernel
  obtain ⟨walked, marks, tokens, read, params, none, stands⟩ := build_condition query built compiled
  refine ⟨compiled, walked, marks, tokens, read, params, fun absent => ?_, stands⟩
  have empty := none.1 absent query.label List.mem_cons_self
  cases empty

end Query

end SqlCraft
