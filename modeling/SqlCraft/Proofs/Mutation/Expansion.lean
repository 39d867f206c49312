/-
**Expanding batches.**

The place for the tuples of a batch is looked for by its text, and a name may have that text as well.
Everything before the columns' closing bracket is words and quoted names, so the place is missed
exactly if the table or a column has such a name; then the tuples end up inside of its quotes, where
they are no placeholders.

* `Misleading` — names that can be taken for the place;
* `Batch.infix_names_iff` — where else the text of the place occurs;
* `Batch.expand_sql_of_sound`, `Batch.expand_sql_of_misled` — the expansion in either case;
* `expand_batch` — expansion is faithful exactly for names that do not mislead;
* `expand_misled` — a table whose rows do not get their placeholders.
-/

import SqlCraft.Proofs.Mutation.Batching
import SqlCraft.Proofs.Sql.Occurrence

namespace SqlCraft

open Sql

/-- A name with the text that the place for tuples is looked for by. -/
def Misleading (name : String) : Prop := "VALUES ?".toList <:+: name.toList

/-! ### Tuples -/

namespace Sql

theorem mem_intercalate {separator : String} {parts : List String} {c : Char}
    (inside : c ∈ (separator.intercalate parts).toList) :
    c ∈ separator.toList ∨ ∃ part ∈ parts, c ∈ part.toList := by
  induction parts with
  | nil => simp at inside
  | cons part rest ih =>
    cases rest with
    | nil => exact .inr ⟨part, List.mem_cons_self, by simpa using inside⟩
    | cons next rest =>
      rw [String.intercalate_cons_of_ne_nil (List.cons_ne_nil _ _), String.toList_append,
        String.toList_append, List.mem_append, List.mem_append] at inside
      rcases inside with (first | between) | later
      · exact .inr ⟨part, List.mem_cons_self, first⟩
      · exact .inl between
      · refine (ih later).imp_right fun ⟨other, within, there⟩ => ?_
        exact ⟨other, List.mem_cons_of_mem _ within, there⟩

/-- Tuples of placeholders have no backtick. -/
theorem not_mem_tuples (rows : List (List Value)) : '\x60' ∉ (tuples rows).toList := by
  have unmarked (count : Nat) : '\x60' ∉ (marks count).toList := by
    intro inside
    rcases mem_intercalate inside with between | ⟨part, among, there⟩
    · exact absurd between (by decide)
    · rw [List.eq_of_mem_replicate among] at there
      exact absurd there (by decide)
  intro inside
  rcases mem_intercalate inside with between | ⟨part, among, there⟩
  · exact absurd between (by decide)
  · obtain ⟨row, -, rfl⟩ := List.mem_map.1 among
    simp [unmarked] at there

theorem head?_tuples {rows : List (List Value)} (nonempty : rows ≠ []) :
    (tuples rows).toList.head? = some '(' := by
  cases rows with
  | nil => exact absurd rfl nonempty
  | cons row rest =>
    cases rest with
    | nil => simp [tuples]
    | cons next rest =>
      rw [tuples, List.map_cons, String.intercalate_cons_of_ne_nil (by simp)]
      simp

end Sql

/-! ### Misleading names -/

theorem not_infix_of_not_mem {text : List Char} (apart : 'V' ∉ text) :
    ¬ "VALUES ?".toList <:+: text :=
  fun inside => apart (inside.subset (by decide))

theorem infix_furtherNames_iff (names : List String) :
    "VALUES ?".toList <:+: furtherNames names ↔ ∃ name ∈ names, Misleading name := by
  induction names with
  | nil => simp [furtherNames]
  | cons name names ih =>
    have written : furtherNames (name :: names) =
        ", ".toList ++ ((quote name).toList ++ furtherNames names) := rfl
    have between : ¬ "VALUES ?".toList <:+: ", ".toList := not_infix_of_not_mem (by decide)
    rw [written, infix_quote_append_iff name (by decide), ih, List.exists_mem_cons_iff, Misleading]
    simp only [between, false_or]

theorem infix_quoteList_iff (names : List String) :
    "VALUES ?".toList <:+: " (".toList ++ (quoteList names).toList ↔
      ∃ name ∈ names, Misleading name := by
  have before : ¬ "VALUES ?".toList <:+: " (".toList := not_infix_of_not_mem (by decide)
  cases names with
  | nil => simpa [quoteList] using before
  | cons name names =>
    rw [toList_quoteList_cons, infix_quote_append_iff name (by decide), infix_furtherNames_iff,
      List.exists_mem_cons_iff, Misleading]
    simp only [before, false_or]

namespace Batch

variable {table : String}

/-- The text before the bracket that closes the fields. -/
def names (batch : Batch table) : String :=
  "INSERT INTO " ++ quote table ++ " (" ++ quoteList batch.pattern.fields

theorem head_eq (batch : Batch table) : batch.head = batch.names ++ ") " :=
  Write.text_opening table batch.pattern.fields

/-- The text of the place occurs before it only in names. -/
theorem infix_names_iff (batch : Batch table) :
    "VALUES ?".toList <:+: batch.names.toList ↔
      ∃ name ∈ table :: batch.pattern.fields, Misleading name := by
  have written : batch.names.toList = "INSERT INTO ".toList ++
      ((quote table).toList ++ (" (".toList ++ (quoteList batch.pattern.fields).toList)) := by
    simp only [names, String.toList_append, List.append_assoc]
  have before : ¬ "VALUES ?".toList <:+: "INSERT INTO ".toList :=
    not_infix_of_not_mem (by decide)
  rw [written, infix_quote_append_iff table (by decide), infix_quoteList_iff,
    List.exists_mem_cons_iff, Misleading]
  simp only [before, false_or]

theorem sql_toList (batch : Batch table) :
    batch.sql.toList =
      batch.names.toList ++ ')' :: ' ' :: ("VALUES ?".toList ++ batch.tail.toList) := by
  rw [sql_eq, head_eq]
  simp only [String.toList_append, List.append_assoc]
  rfl

/-- A batch has one placeholder outside of quoted names. -/
theorem openMarks_sql (batch : Batch table) : openMarks false batch.sql.toList = 1 := by
  have before : Neutral (batch.head.toList ++ "VALUES ".toList) :=
    batch.neutral_head.append (by decide)
  rw [sql_eq, String.toList_append, String.toList_append, ← before.openMarks_between batch.neutral_tail,
    List.append_assoc, List.append_assoc]
  rfl

/-- With a tuple for each row in its place, a batch has as many placeholders as there are values. -/
theorem openMarks_fill (batch : Batch table) :
    openMarks false (fill (tuples batch.rows) batch.sql).toList = batch.rows.flatten.length := by
  have written := Write.text_insertion table batch.kind batch.pattern
    (Fragment.join ", " (batch.rows.map Write.tuple))
  rw [Write.text_tuples] at written
  rw [fill_sql, head, tail, ← written,
    (Write.plain_insertion table _ _ (Write.plain_tuples batch.rows)).openMarks_text.1,
    Write.params_insertion, Write.params_tuples]

theorem expand_toList (batch : Batch table) :
    batch.statement.expand.sql.toList =
      replaceFirst "VALUES ?".toList ("VALUES ".toList ++ (tuples batch.rows).toList)
        (batch.names.toList ++ ')' :: ' ' :: ("VALUES ?".toList ++ batch.tail.toList)) := by
  rw [← sql_toList, ← String.toList_append]
  exact String.toList_ofList

theorem fill_toList (batch : Batch table) :
    (fill (tuples batch.rows) batch.sql).toList =
      batch.names.toList ++
        ')' :: ' ' :: ("VALUES ".toList ++ (tuples batch.rows).toList ++ batch.tail.toList) := by
  rw [fill_sql, head_eq]
  simp only [String.toList_append, List.append_assoc]
  rfl

/-- **Names that do not mislead leave the place to be found.** -/
theorem expand_sql_of_sound (batch : Batch table)
    (sound : ¬ ∃ name ∈ table :: batch.pattern.fields, Misleading name) :
    batch.statement.expand.sql = fill (tuples batch.rows) batch.sql := by
  rw [← infix_names_iff] at sound
  have blank (rest : List Char) : ¬ "VALUES ?".toList <+: ' ' :: rest := fun starts =>
    absurd (List.cons_prefix_cons.1 starts).1 (by decide)
  refine String.toList_injective ?_
  rw [expand_toList, fill_toList, replaceFirst_append_cons (by decide) sound,
    replaceFirst_cons_of_not_prefix (blank _), replaceFirst_pattern_append (by decide)]

/-- **A misleading name is where the tuples go.** The placeholder is left, and stays the only one. -/
theorem expand_sql_of_misled (batch : Batch table)
    (misled : ∃ name ∈ table :: batch.pattern.fields, Misleading name) :
    batch.statement.expand.sql ≠ fill (tuples batch.rows) batch.sql ∧
      openMarks false batch.statement.expand.sql.toList = 1 := by
  rw [← infix_names_iff] at misled
  obtain ⟨before, behind, same, replaced⟩ := replaceFirst_of_infix
    ("VALUES ".toList ++ (tuples batch.rows).toList) (by decide) misled
  constructor
  · -- Where the name had its question mark, the first tuple opens.
    intro equal
    have texts := congrArg String.toList equal
    have word : "VALUES ?".toList = "VALUES ".toList ++ ['?'] := rfl
    rw [expand_toList, replaced, fill_toList, same, word] at texts
    simp only [List.append_assoc, List.append_cancel_left_eq] at texts
    have first := congrArg List.head? texts
    rw [List.head?_append, head?_tuples batch.rows_ne_nil] at first
    exact absurd (Option.some.inj first) (by decide)
  · have apart : '\x60' ∉ "VALUES ".toList ++ (tuples batch.rows).toList := fun inside =>
      (List.mem_append.1 inside).elim (by decide) (not_mem_tuples batch.rows)
    have none : openMarks false (before ++ "VALUES ?".toList) = 0 := by
      have whole := batch.neutral_head.openMarks_eq
      rw [head_eq, String.toList_append, same, ← List.append_assoc, openMarks_append,
        openMarks_append, Nat.add_eq_zero_iff, Nat.add_eq_zero_iff] at whole
      exact whole.1.1
    rw [expand_toList, replaced, openMarks_replace _ (by decide) (by decide) apart none,
      ← batch.openMarks_sql, sql_toList, same, List.append_assoc, List.append_assoc]

end Batch

/-! ### The batches of a plan -/

namespace Mutation

/-- **Expansion is faithful exactly for names that do not mislead.** In place of the one placeholder
outside of quoted names, tuples leave table, columns and what stands behind as they are, and have a
placeholder for each of the flat values. Expansion puts them there unless the table or a column of the
batch has the text of the place in its name; then the batch keeps its one placeholder. -/
theorem expand_batch {mutation : Mutation} {plan : Plan} {entry : TablePlan} {sql : String}
    {rows : List (List Value)} (compiled : mutation.compile true = .ok plan)
    (inside : entry ∈ plan.tables) (bound : ⟨sql, .rows rows⟩ ∈ entry.statements) :
    ∃ fields tail,
      sql = "INSERT INTO " ++ quote entry.table ++ " (" ++ quoteList fields ++ ") VALUES ?" ++ tail ∧
      openMarks false sql.toList = 1 ∧
      fill (tuples rows) sql =
        "INSERT INTO " ++ quote entry.table ++ " (" ++ quoteList fields ++ ") VALUES " ++
          tuples rows ++ tail ∧
      openMarks false (fill (tuples rows) sql).toList = rows.flatten.length ∧
      (Statement.expand ⟨sql, .rows rows⟩).params = rows.flatten ∧
      ((Statement.expand ⟨sql, .rows rows⟩).sql = fill (tuples rows) sql ↔
        ¬ ∃ name ∈ entry.table :: fields, Misleading name) ∧
      ((∃ name ∈ entry.table :: fields, Misleading name) →
        openMarks false (Statement.expand ⟨sql, .rows rows⟩).sql.toList = 1) := by
  obtain ⟨table, writes, rfl⟩ := compile_mem_tables compiled inside
  obtain ⟨batch, same⟩ := Write.statements_batch bound rfl
  cases same
  have head : batch.head =
      "INSERT INTO " ++ quote table ++ " (" ++ quoteList batch.pattern.fields ++ ") " := batch.head_eq
  refine ⟨batch.pattern.fields, batch.tail, ?_, batch.openMarks_sql, ?_, batch.openMarks_fill, rfl,
    ⟨fun placed misled => (batch.expand_sql_of_misled misled).1 placed, batch.expand_sql_of_sound⟩,
    fun misled => (batch.expand_sql_of_misled misled).2⟩
  · have words : ") VALUES ?" = ") " ++ "VALUES ?" := rfl
    simp only [Write.tablePlan, batch.sql_eq, head, words, String.append_assoc]
  · have words : ") VALUES " = ") " ++ "VALUES " := rfl
    simp only [Write.tablePlan, batch.fill_sql, head, words, String.append_assoc]

/-- Question marks and backticks in names do not mislead. -/
theorem expand_batch_questions :
    let songs : Table := ⟨"VALUES \x60?", [{ name := "id?", type := .int, primaryKey := true }]⟩
    let mutation : Mutation := .ofTable songs
      (.rows .insert [{ entries := [("id?", .int 1)] }, { entries := [("id?", .int 2)] }])
    let sql := "INSERT INTO \x60VALUES \x60\x60?\x60 (\x60id?\x60) VALUES ?"
    let rows : List (List Value) := [[.int 1], [.int 2]]
    mutation.compile true = .ok ⟨[⟨songs.name, false, [⟨sql, .rows rows⟩]⟩]⟩ ∧
      (∃ fields tail,
        sql = "INSERT INTO " ++ quote songs.name ++ " (" ++ quoteList fields ++ ") VALUES ?" ++ tail ∧
        ((Statement.expand ⟨sql, .rows rows⟩).sql = fill (tuples rows) sql ↔
          ¬ ∃ name ∈ songs.name :: fields, Misleading name)) ∧
      openMarks false (fill (tuples rows) sql).toList = 2 := by
  intro songs mutation sql rows
  have compiled : mutation.compile true = .ok ⟨[⟨songs.name, false, [⟨sql, .rows rows⟩]⟩]⟩ := by
    decide +kernel
  obtain ⟨fields, tail, written, -, -, marks, -, placed, -⟩ :=
    expand_batch compiled List.mem_cons_self List.mem_cons_self
  exact ⟨compiled, ⟨fields, tail, written, placed⟩, marks⟩

/-- **A table whose rows do not get their placeholders**: the tuples become part of its name. -/
theorem expand_misled :
    let plays : Table := ⟨"VALUES ?", [{ name := "id", type := .int, primaryKey := true }]⟩
    let mutation : Mutation := .ofTable plays
      (.rows .insert [{ entries := [("id", .int 1)] }, { entries := [("id", .int 2)] }])
    let batch : Statement :=
      ⟨"INSERT INTO \x60VALUES ?\x60 (\x60id\x60) VALUES ?", .rows [[.int 1], [.int 2]]⟩
    mutation.compile true = .ok ⟨[⟨plays.name, false, [batch]⟩]⟩ ∧
      batch.expand =
        ⟨"INSERT INTO \x60VALUES (?), (?)\x60 (\x60id\x60) VALUES ?", [.int 1, .int 2]⟩ ∧
      fill (tuples [[.int 1], [.int 2]]) batch.sql =
        "INSERT INTO \x60VALUES ?\x60 (\x60id\x60) VALUES (?), (?)" := by
  decide +kernel

end Mutation

end SqlCraft
