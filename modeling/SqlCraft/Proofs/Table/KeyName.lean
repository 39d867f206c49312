/-
**The names of keys.**

A key is named after its kind, its table and its columns, with low lines between them. The kind comes
first, so an index is never named like a unique key; and two keys of one kind are named alike if the low
lines divide their columns' names into the same parts. A key on one column alone is divided like a group
where the name of the column has low lines of its own.

* `clauseName?` — the name of the key that a line of a definition declares;
* `keyName_eq_iff` — keys of one kind with the same name have the same parts;
* `clauseNames_distinct` — the names in a definition are distinct unless two keys have the same parts.
-/

import Mathlib
import SqlCraft.Proofs.Table.KeyClause

namespace SqlCraft

open Sql (quote)

/-! ### Names in a definition -/

/-- Reads the name of a key of the kind. -/
def KeyKind.readName? (kind : KeyKind) (line : String) : Option String :=
  (Command.readNamed? (kind.keyword ++ " ") line.toList).map Prod.fst

/-- Reads the name of a key, of whatever kind. -/
def clauseName? (line : String) : Option String :=
  KeyKind.index.readName? line <|> KeyKind.unique.readName? line

namespace Table

variable {table : Table} {kind : KeyKind}

theorem readName?_keySql (columns : List String) :
    kind.readName? (table.keySql kind columns) = some (table.keyName kind columns) := by
  have text : (table.keySql kind columns).toList = (kind.keyword ++ " ").toList ++
      ((quote (table.keyName kind columns)).toList ++
        (" (" ++ Sql.quoteList columns ++ ")").toList) := by
    simp only [keySql, String.toList_append, List.append_assoc]
  rw [KeyKind.readName?, text, Command.readNamed?_quote _ _ (by simp)]
  rfl

/-- What begins with other words has no name of the kind. -/
theorem readName?_eq_none {line : String}
    (other : line.toList.dropPrefix? (kind.keyword ++ " ").toList = none) :
    kind.readName? line = none := by
  rw [KeyKind.readName?, Command.readNamed?, other]
  rfl

theorem clauseName?_keySql (columns : List String) :
    clauseName? (table.keySql kind columns) = some (table.keyName kind columns) := by
  cases kind with
  | index =>
    rw [clauseName?, readName?_keySql]
    rfl
  | unique =>
    have other : KeyKind.index.readName? (table.keySql .unique columns) = none :=
      readName?_eq_none (dropPrefix?_keySql table .index (by decide) columns)
    rw [clauseName?, other, readName?_keySql]
    rfl

/-- A line that begins with other words names no key. -/
theorem clauseName?_eq_none {line : String}
    (other : ∀ kind : KeyKind, line.toList.dropPrefix? (kind.keyword ++ " ").toList = none) :
    clauseName? line = none := by
  rw [clauseName?, readName?_eq_none (other .index), readName?_eq_none (other .unique)]
  rfl

/-- **The names of the keys in a definition are those of the table's keys.** -/
theorem clauseName?_definitionLines : table.definitionLines.filterMap clauseName? =
    [KeyKind.index, KeyKind.unique].flatMap fun kind =>
      (table.keys kind).map (table.keyName kind) := by
  have columns : (table.columns.map Column.sql).filterMap clauseName? = [] := by
    rw [List.filterMap_eq_nil_iff]
    intro line inside
    obtain ⟨column, -, rfl⟩ := List.mem_map.1 inside
    exact clauseName?_eq_none fun kind => dropPrefix?_columnSql kind column
  have primary : table.primaryKeySql.filterMap clauseName? = [] :=
    List.filterMap_eq_nil_iff.2 fun line inside =>
      clauseName?_eq_none fun kind => dropPrefix?_primaryKeySql table kind inside
  rw [definitionLines, List.filterMap_append, List.filterMap_append, columns, primary,
    List.nil_append, List.nil_append, List.filterMap_flatMap]
  refine List.flatMap_congr fun kind _ => ?_
  have named : clauseName? ∘ table.keySql kind = some ∘ table.keyName kind :=
    funext clauseName?_keySql
  rw [List.filterMap_map, named, List.filterMap_eq_map]

/-! ### Names that are alike -/

/-- The parts into which low lines divide the names of columns. -/
def nameParts (columns : List String) : List (List Char) :=
  columns.flatMap fun name => name.toList.splitOn '_'

theorem splitOn_intercalate_names {columns : List String} (some : columns ≠ []) :
    (String.intercalate "_" columns).toList.splitOn '_' = nameParts columns := by
  induction columns with
  | nil => exact absurd rfl some
  | cons column columns ih =>
    cases columns with
    | nil => simp [nameParts]
    | cons second columns =>
      have low (text : String) : ("_" ++ text).toList = '_' :: text.toList := by simp
      rw [String.intercalate_cons_cons, String.append_assoc, String.toList_append, low,
        List.splitOn_append_cons_self, ih (List.cons_ne_nil _ _)]
      rfl

/-- **Keys of one kind are named alike if their columns have the same parts, and only then.** -/
theorem keyName_eq_iff {first second : List String} (left : first ≠ []) (right : second ≠ []) :
    table.keyName kind first = table.keyName kind second ↔ nameParts first = nameParts second := by
  rw [keyName, keyName, String.append_right_inj, ← splitOn_intercalate_names left,
    ← splitOn_intercalate_names right]
  constructor
  · exact fun same => by rw [same]
  · intro same
    have texts := congrArg (List.intercalate ['_']) same
    rwa [List.intercalate_splitOn, List.intercalate_splitOn, String.toList_inj] at texts

/-- An index is not named like a unique key. -/
theorem keyName_ne (first second : List String) :
    table.keyName .index first ≠ table.keyName .unique second := by
  intro same
  have texts := congrArg String.toList same
  simp [keyName, KeyKind.label] at texts

/-- The keys of a kind are told apart by the parts of their names. -/
def PartsDiffer (table : Table) (kind : KeyKind) : Prop :=
  (table.keys kind).Pairwise fun first second => nameParts first ≠ nameParts second

theorem nodup_keyNames_iff (named : [] ∉ table.keys kind) :
    ((table.keys kind).map (table.keyName kind)).Nodup ↔ table.PartsDiffer kind := by
  rw [List.Nodup, List.pairwise_map]
  refine List.Pairwise.iff_of_mem fun {first second} left right => not_congr ?_
  exact keyName_eq_iff (ne_of_mem_of_not_mem left named) (ne_of_mem_of_not_mem right named)

theorem nodup_clauseNames_iff (named : ∀ kind, [] ∉ table.keys kind) :
    (table.definitionLines.filterMap clauseName?).Nodup ↔ ∀ kind, table.PartsDiffer kind := by
  have apart : ((table.keys .index).map (table.keyName .index)).Disjoint
      ((table.keys .unique).map (table.keyName .unique)) := by
    intro name left right
    obtain ⟨first, -, rfl⟩ := List.mem_map.1 left
    obtain ⟨second, -, same⟩ := List.mem_map.1 right
    exact keyName_ne first second same.symm
  have both : (∀ kind, table.PartsDiffer kind) ↔
      table.PartsDiffer .index ∧ table.PartsDiffer .unique := by
    refine ⟨fun differ => ⟨differ _, differ _⟩, fun ⟨index, unique⟩ kind => ?_⟩
    cases kind
    · exact index
    · exact unique
  rw [clauseName?_definitionLines, List.flatMap_cons, List.flatMap_cons, List.flatMap_nil,
    List.append_nil, List.nodup_append', nodup_keyNames_iff (named _), nodup_keyNames_iff (named _),
    both]
  exact ⟨fun ⟨index, unique, _⟩ => ⟨index, unique⟩, fun ⟨index, unique⟩ => ⟨index, unique, apart⟩⟩

/-! ### Names that are told apart -/

/-- A name without low lines is one part. -/
theorem nameParts_of_not_mem {columns : List String}
    (plain : ∀ name ∈ columns, '_' ∉ name.toList) :
    nameParts columns = columns.map String.toList := by
  induction columns with
  | nil => rfl
  | cons column columns ih =>
    obtain ⟨first, others⟩ := List.forall_mem_cons.1 plain
    rw [nameParts, List.flatMap_cons, List.splitOn_eq_singleton first, ← nameParts, ih others]
    rfl

/-- A column's name is put together again from its parts. -/
theorem nameParts_singleton_inj {first second : String}
    (same : nameParts [first] = nameParts [second]) : first = second := by
  have texts := congrArg (List.intercalate ['_']) same
  simpa [nameParts, List.intercalate_splitOn, String.toList_inj] using texts

/-- Keys of sound tables are told apart if all of them are on single columns, or if no column of a key has a
low line in its name. -/
theorem partsDiffer (distinct : table.columnNames.Nodup)
    (plain : table.compositeGroups kind = [] ∨
      ∀ clause ∈ table.keys kind, ∀ name ∈ clause, '_' ∉ name.toList) : table.PartsDiffer kind := by
  have clauses : table.KeyClauses kind (table.keys kind) := keyClauses distinct
  have named : [] ∉ table.keys kind := nil_notMem_keys distinct
  refine (List.nodup_flatten.1 clauses.once).2.imp_of_mem fun {first second} left right apart same => ?_
  -- Two keys that are the same would share a column.
  have share {name : String} (inside : name ∈ first) (again : name ∈ second) : False :=
    apart inside again
  rcases plain with single | plain
  · rw [keys, single, List.map_nil, List.append_nil, List.mem_map] at left right
    obtain ⟨column, -, rfl⟩ := left
    obtain ⟨other, -, rfl⟩ := right
    exact share List.mem_cons_self (nameParts_singleton_inj same ▸ List.mem_cons_self)
  · rw [nameParts_of_not_mem (plain first left), nameParts_of_not_mem (plain second right)] at same
    obtain rfl : first = second := List.map_injective_iff.2 (fun _ _ => String.toList_inj.1) same
    obtain ⟨name, columns, rfl⟩ := List.exists_cons_of_ne_nil (ne_of_mem_of_not_mem left named)
    exact share List.mem_cons_self List.mem_cons_self

/-- **Key names are distinct unless two keys have the same parts.** In the definition of a sound table the
names of all indexes and unique keys differ if and only if no two keys of one kind have names that low lines
divide into the same parts; this is so of a kind without groups, and of a kind whose keys cover no column
with a low line in its name. -/
theorem clauseNames_distinct (table : Table) (sound : table.validate = .ok ()) :
    ((table.definitionLines.filterMap clauseName?).Nodup ↔ ∀ kind, table.PartsDiffer kind) ∧
    ((∀ kind, table.compositeGroups kind = [] ∨
      ∀ clause ∈ table.keys kind, ∀ name ∈ clause, '_' ∉ name.toList) →
        (table.definitionLines.filterMap clauseName?).Nodup) := by
  have distinct := nodup_columnNames sound
  have named (kind : KeyKind) : [] ∉ table.keys kind := nil_notMem_keys distinct
  have differ := nodup_clauseNames_iff named
  exact ⟨differ, fun plain => differ.2 fun kind => partsDiffer distinct (plain kind)⟩

/-- Loans: a group without low lines, a unique key whose column has one, and an index. -/
def loans : Table where
  name := "loans"
  columns := [
    { name := "book", type := .int, index := some (.composite ["reader"] 0) },
    { name := "reader", type := .int, index := some (.composite ["book"] 1) },
    { name := "due", type := .date, index := some .single },
    { name := "card_number", type := .int, unique := some .single }]

theorem clauseNames_distinct_loans : loans.validate = .ok () ∧
    ["idx_loans_due", "idx_loans_book_reader", "uq_loans_card_number"].Nodup ∧
    ∀ kind, loans.PartsDiffer kind := by
  have sound : loans.validate = .ok () := by decide +kernel
  have names : loans.definitionLines.filterMap clauseName? =
      ["idx_loans_due", "idx_loans_book_reader", "uq_loans_card_number"] := by cbv
  have indexes : loans.keys .index = [["due"], ["book", "reader"]] := by cbv
  have single : loans.compositeGroups .unique = [] := by cbv
  obtain ⟨differ, apart⟩ := clauseNames_distinct loans sound
  have nodup := apart fun kind => by
    cases kind
    · exact .inr (indexes ▸ by decide)
    · exact .inl single
  exact ⟨sound, names ▸ nodup, differ.1 nodup⟩

/-- A group of two columns, and a column that is named like both. -/
def doubled : Table where
  name := "t"
  columns := [
    { name := "a", type := .int, index := some (.composite ["b"] 0) },
    { name := "b", type := .int, index := some (.composite ["a"] 1) },
    { name := "a_b", type := .int, index := some .single }]

/-- An index on one column and one on two can be named alike. -/
theorem clauseNames_alike : doubled.validate = .ok () ∧
    doubled.definitionLines.filterMap clauseName? = ["idx_t_a_b", "idx_t_a_b"] ∧
    ¬ (doubled.definitionLines.filterMap clauseName?).Nodup := by
  have names : doubled.definitionLines.filterMap clauseName? = ["idx_t_a_b", "idx_t_a_b"] := by cbv
  exact ⟨by decide +kernel, names, names ▸ by decide⟩

end Table

end SqlCraft
