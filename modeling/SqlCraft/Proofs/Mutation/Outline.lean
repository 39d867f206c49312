/-
**Values do not shape SQL.**

An outline of a query or a mutation is what is left of it without its values, except for which values
of filters are null. Outlines decide everything but the values that are bound: whether there is SQL or
an error and which one, the texts, the tables, the order of the statements, and how many rows a batch
has.

* `Query.outline`, `Mutation.outline` — a description without its values;
* `Write.blank_mergeBatches` — merging goes by texts, not by values;
* `Mutation.compile_mapValues` — the plan of a mutation with other values;
* `values_do_not_shape` — one outline, one shape.
-/

import SqlCraft.Proofs.Mutation.Batching
import SqlCraft.Proofs.Mutation.Change

namespace SqlCraft

open Sql (BoundText Statement Binding)

namespace Write

/-! ### The statements of one table -/

section

variable (change fill : Value → Value)

theorem fieldsDiffer_mapValues (first second : Write) :
    fieldsDiffer (first.mapValues change fill) (second.mapValues change fill) =
      fieldsDiffer first second := by
  cases first with
  | row kind row =>
    cases second with
    | row other more =>
      show ((row.mapValues fill).fields != (more.mapValues fill).fields) = _
      rw [KeyedRow.fields_mapValues, KeyedRow.fields_mapValues]
      rfl
    | update | delete | insertSelect => rfl
  | update | delete | insertSelect => rfl

theorem needSeparate_mapValues (writes : List Write) :
    needSeparate (writes.map (mapValues change fill)) = needSeparate writes := by
  induction writes with
  | nil => rfl
  | cons first rest ih =>
    cases rest with
    | nil => rfl
    | cons second rest =>
      rw [List.map_cons, List.map_cons, needSeparate, fieldsDiffer_mapValues, needSeparate]
      rw [List.map_cons] at ih
      rw [ih]

theorem blank_batched (table : String) (write : Write) :
    (batched table (write.mapValues change fill)).blank = (batched table write).blank := by
  cases write with
  | row kind row =>
    have inserted (kind : RowWrite) : (Batch.ofRow table kind (row.mapValues fill)).statement.blank =
        (Batch.ofRow table kind row).statement.blank := by
      simp only [Batch.statement, Batch.sql, Batch.ofRow, insertion_mapValues, Statement.blank,
        Binding.blank, List.map_cons, List.map_nil, erased_values]
    cases kind with
    | insert | upsert | addUpsert => exact inserted _
    | update | delete => exact blank_statement fill table change _
  | update | delete | insertSelect => exact blank_statement fill table change _

end

/-- **Merging goes by texts, not by values.** -/
theorem blank_mergeBatches (statements : List Statement) :
    (mergeBatches statements).map Statement.blank = mergeBatches (statements.map Statement.blank) := by
  induction statements with
  | nil => rfl
  | cons statement rest ih =>
    obtain ⟨sql, binding⟩ := statement
    rw [List.map_cons, mergeBatches, mergeBatches, ← ih]
    cases binding with
    | values params => rfl
    | rows rows =>
      cases mergeBatches rest with
      | nil => rfl
      | cons next others =>
        obtain ⟨text, binding⟩ := next
        cases binding with
        | values params => rfl
        | rows more =>
          by_cases same : sql = text
          · simp [Statement.blank, Binding.blank, same]
          · simp [Statement.blank, Binding.blank, same]

theorem blank_statements (change fill : Value → Value) (table : String) (batching : Bool)
    (writes : List Write) :
    (statements table batching (writes.map (mapValues change fill))).map Statement.blank =
      (statements table batching writes).map Statement.blank := by
  unfold statements
  rw [needSeparate_mapValues]
  split
  · rw [blank_mergeBatches, blank_mergeBatches, List.map_map, List.map_map, List.map_map]
    congr 1
    exact List.map_congr_left fun write _ => blank_batched change fill table write
  · rw [List.map_map, List.map_map, List.map_map]
    exact List.map_congr_left fun write _ => blank_statement fill table change write

end Write

namespace Mutation

/-! ### The plan of a mutation -/

theorem gather_map (change : Write → Write) (visited : List (String × List Write)) :
    gather (visited.map fun entry => (entry.1, entry.2.map change)) =
      (gather visited).map fun entry => (entry.1, entry.2.map change) := by
  have own (table : String) :
      ((visited.map fun entry => (entry.1, entry.2.map change)).filter
          fun entry => entry.1 == table).flatMap Prod.snd =
        ((visited.filter fun entry => entry.1 == table).flatMap Prod.snd).map change := by
    rw [List.filter_map, List.flatMap_map, List.map_flatMap]
    rfl
  have tables : (visited.map fun entry => (entry.1, entry.2.map change)).map Prod.fst =
      visited.map Prod.fst := List.map_map
  unfold gather
  simp only [tables, own]
  have gathered := List.filter_map
    (f := fun entry : String × List Write => (entry.1, entry.2.map change))
    (p := fun entry => !entry.2.isEmpty) (l := (visited.map Prod.fst).eraseDups.map fun table =>
      (table, (visited.filter fun entry => entry.1 == table).flatMap Prod.snd))
  rw [List.map_map] at gathered
  refine gathered.trans ?_
  congr 1
  exact List.filter_congr fun entry _ => by simp

/-- **With other values a mutation has the same plan**, but for its values, or the same offence. -/
theorem compile_mapValues {change : Value → Value} (keeps : KeepsNull change) (fill : Value → Value)
    (mutation : Mutation) (batched : Bool) :
    ((mutation.mapValues change fill).compile batched).map Plan.blank =
      (mutation.compile batched).map Plan.blank := by
  have visited : (mutation.mapValues change fill).visitedWrites = mutation.visitedWrites.map
      (List.map fun entry => (entry.1, entry.2.map (Write.mapValues change fill))) := by
    rw [visitedWrites, mapValues, Tree.preorder_map]
    refine mapM_commutes _ fun node => ?_
    rw [node.writes_mapValues fill keeps]
    cases node.writes <;> rfl
  rw [compile, visited, compile]
  cases mutation.visitedWrites with
  | error cause => rfl
  | ok visited =>
    show Except.ok _ = Except.ok _
    simp only [Plan.blank, gather_map, List.map_map]
    congr 2
    refine List.map_congr_left fun entry _ => ?_
    show TablePlan.mk _ _ _ = TablePlan.mk _ _ _
    congr 1
    · exact Write.needSeparate_mapValues change fill entry.2
    · exact Write.blank_statements change fill entry.1 batched entry.2

end Mutation

/-! ### Outlines -/

/-- A value of a filter, of which only being null is left. -/
def Value.nullity (value : Value) : Value := if value.isNull then .null else .bool true

theorem keepsNull_nullity : KeepsNull Value.nullity := by
  rintro (_ | _) <;> simp [Value.nullity, Value.isNull]

/-- A query without its values. -/
def Query.outline (query : Query) : Query := query.mapValues Value.nullity

/-- A mutation without its values. -/
def Mutation.outline (mutation : Mutation) : Mutation :=
  mutation.mapValues Value.nullity Value.erased

namespace Sql

/-- A bound text without its values. -/
def BoundText.blank (bound : BoundText) : BoundText := bound.mapValues Value.erased

/-- Expanding a statement goes by how many values its rows have. -/
theorem Statement.expand_blank (statement : Statement) :
    statement.blank.expand = statement.expand.blank := by
  obtain ⟨sql, binding⟩ := statement
  cases binding with
  | values params => rfl
  | rows rows =>
    have same : tuples (rows.map (List.map Value.erased)) = tuples rows := by
      rw [tuples, List.map_map, tuples]
      congr 2
      funext row
      exact congrArg (fun count => "(" ++ marks count ++ ")") (List.length_map _)
    show BoundText.mk _ _ = BoundText.mk _ _
    rw [same]
    exact congrArg (BoundText.mk _) List.map_flatten.symm

end Sql

/-- Expanding all statements of a plan goes by what is left of it without its values. -/
theorem Plan.expand_blank (plan : Plan) :
    plan.blank.statements.map Statement.expand =
      plan.statements.map fun statement => statement.expand.blank := by
  simp only [blank, statements, TablePlan.blank, List.flatMap_map, List.map_flatMap, List.map_map,
    Function.comp_def, Statement.expand_blank]

theorem Query.build_outline (query : Query) :
    query.outline.build.map BoundText.blank = query.build.map BoundText.blank := by
  rw [outline, build_mapValues keepsNull_nullity]
  cases query.build with
  | error cause => rfl
  | ok built =>
    show Except.ok (BoundText.mk _ _) = Except.ok (BoundText.mk _ _)
    congr 2
    exact List.map_map

/-- **Values do not shape SQL.** Of two queries, or two mutations, that have one outline, both are
refused for the same reason or none is, and they have the same texts, also when batches are expanded,
tables, flags, order of statements, and rows in each batch. -/
theorem values_do_not_shape :
    (∀ first second : Query, first.outline = second.outline →
      first.build.map BoundText.blank = second.build.map BoundText.blank) ∧
    ∀ (first second : Mutation) (batched : Bool), first.outline = second.outline →
      (first.compile batched).map Plan.blank = (second.compile batched).map Plan.blank ∧
      (first.compile batched).map (fun plan => plan.statements.map fun statement =>
          statement.expand.blank) =
        (second.compile batched).map fun plan => plan.statements.map fun statement =>
          statement.expand.blank := by
  have expanded (compiled : Compiled Plan) :
      compiled.map (fun plan => plan.statements.map fun statement => statement.expand.blank) =
        (compiled.map Plan.blank).map fun plan => plan.statements.map Statement.expand := by
    cases compiled with
    | error cause => rfl
    | ok plan => exact congrArg Except.ok plan.expand_blank.symm
  constructor
  · intro first second same
    rw [← first.build_outline, same, second.build_outline]
  · intro first second batched same
    have plans : (first.compile batched).map Plan.blank = (second.compile batched).map Plan.blank := by
      rw [← Mutation.compile_mapValues keepsNull_nullity Value.erased first]
      rw [← Mutation.compile_mapValues keepsNull_nullity Value.erased second]
      exact congrArg (fun outline : Mutation => (outline.compile batched).map Plan.blank) same
    exact ⟨plans, by rw [expanded, plans, ← expanded]⟩

/-- Nulls, quotes and what looks like SQL only end up in parameters. -/
theorem values_do_not_shape_texts :
    let songs : Table := ⟨"songs", [{ name := "id", type := .int, primaryKey := true },
      { name := "title", type := .varchar }]⟩
    let query (title : Value) : Query := (Query.ofTable songs).filter (Filter.empty.eq "title" title)
    let mutation (row : Row) (title : Value) : Mutation := .node ⟨songs, .rows .insert [row]⟩
      [("more", Mutation.ofTable songs (.rows .insert [row])),
        ("gone", Mutation.ofTable songs (.setDelete (Filter.empty.eq "title" title)))]
    let first := mutation { entries := [("id", .int 1), ("title", .null)] } (.int 3)
    let second := mutation { entries := [("id", .null), ("title", .text "VALUES ?")] } (.text "' OR 1")
    let sql := "INSERT INTO \x60songs\x60 (\x60id\x60, \x60title\x60) VALUES ?"
    let selection := "SELECT \x60songs\x60.\x60id\x60, \x60songs\x60.\x60title\x60 FROM \x60songs\x60 " ++
      "WHERE \x60songs\x60.\x60title\x60 = ?"
    first.compile true = .ok ⟨[⟨"songs", false,
      [⟨sql, .rows [[.int 1, .null], [.int 1, .null]]⟩,
        ⟨"DELETE FROM \x60songs\x60 WHERE \x60songs\x60.\x60title\x60 = ?", .values [.int 3]⟩]⟩]⟩ ∧
    (first.compile true).map Plan.blank = (second.compile true).map Plan.blank ∧
    (query (.int 3)).build = .ok ⟨selection, [.int 3]⟩ ∧
    (query (.text "' OR 1")).build = .ok ⟨selection, [.text "' OR 1"]⟩ ∧
    (query (.int 3)).build.map BoundText.blank = (query (.text "' OR 1")).build.map BoundText.blank := by
  intro songs query mutation first second sql selection
  exact ⟨by decide +kernel, (values_do_not_shape.2 first second true rfl).1, by decide +kernel,
    by decide +kernel, values_do_not_shape.1 _ _ rfl⟩

end SqlCraft
