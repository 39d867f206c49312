/-
**The text of insertions.**

Whatever stands behind `VALUES`, an insertion has the same words and names around it, and all of its
placeholders there. It can be told from its text which fields it names.

* `text_insertion` — what stands before the values and behind them;
* `text_insertion_inj` — insertions into a table that are written alike have the same fields;
* `plain_insertion`, `params_insertion` — its placeholders are those of the values;
* `text_tuple`, `params_tuple` — a tuple has a placeholder for each value;
* `text_tuples`, `params_tuples` — and so do tuples for many rows.
-/

import SqlCraft.Mutation.Write
import SqlCraft.Proofs.Sql.Placeholder

namespace SqlCraft.Write

open Sql

/-- An insertion up to its fields. -/
def opening (table : String) (fields : List String) : Fragment :=
  [.word "INSERT INTO ", .identifier table, .word " ("] ++ Fragment.names fields ++ [.word ") "]

theorem text_opening (table : String) (fields : List String) :
    (opening table fields).text =
      "INSERT INTO " ++ quote table ++ " (" ++ quoteList fields ++ ") " := by
  simp [opening, Fragment.text_names, Piece.text, String.append_assoc]

theorem text_insertion (table : String) (kind : RowWrite) (row : KeyedRow) (values : Fragment) :
    (insertion table kind row values).text =
      (opening table row.fields).text ++ "VALUES " ++ values.text ++
        (onDuplicate table kind row).text := by
  have word : ") VALUES " = ") " ++ "VALUES " := rfl
  simp only [insertion, opening, Fragment.text_append, Fragment.text_cons, Fragment.text_nil,
    Piece.text, word, String.append_assoc, String.append_empty]

/-- **The text of an insertion determines its fields**: a bracket stands behind their names. -/
theorem text_insertion_inj {table : String} {kind other : RowWrite} {row more : KeyedRow}
    {values others : Fragment}
    (same : (insertion table kind row values).text = (insertion table other more others).text) :
    row.fields = more.fields := by
  have bracket (text : List Char) :
      (") ".toList ++ text).head? ≠ some '\x60' ∧ (") ".toList ++ text).head? ≠ some ',' := by
    have first : (") ".toList ++ text).head? = some ')' := rfl
    rw [first]
    decide
  simp only [text_insertion, text_opening, String.append_assoc, String.append_right_inj] at same
  have behind := congrArg String.toList same
  simp only [String.toList_append] at behind
  exact (quoteList_append_inj (bracket _) (bracket _) behind).1

/-! ### Names and slots of an insertion -/

theorem plain_names (list : List String) : (Fragment.names list).Plain := by
  refine .join (by decide) fun fragment inside => ?_
  obtain ⟨name, -, rfl⟩ := List.mem_map.1 inside
  exact .name name .nil

theorem params_names (list : List String) : (Fragment.names list).params = [] := by
  rw [Fragment.names, Fragment.params_join, List.flatMap_map]
  exact List.flatMap_eq_nil_iff.2 fun name _ => rfl

theorem plain_opening (table : String) (fields : List String) : (opening table fields).Plain := by
  have start : Fragment.Plain [.word "INSERT INTO ", .identifier table, .word " ("] :=
    .word (by decide) (.name table (.word (by decide) .nil))
  exact (start.append (plain_names fields)).append (.word (by decide) .nil)

theorem params_opening (table : String) (fields : List String) :
    (opening table fields).params = [] := by
  rw [opening, Fragment.params_append, Fragment.params_append, params_names]
  rfl

theorem plain_updateAssignment (table : String) (adds : Bool) (field : String) :
    (updateAssignment table adds field).Plain := by
  have stored : (ColumnName.mk table field).fragment.Plain :=
    .name table (.word (by decide) (.name field .nil))
  refine (stored.append (.word (by decide) (.name field .nil))).append ?_
  cases adds with
  | false => exact .nil
  | true => exact .word (by decide) stored

theorem params_updateAssignment (table : String) (adds : Bool) (field : String) :
    (updateAssignment table adds field).params = [] := by
  cases adds <;> rfl

theorem plain_onDuplicate (table : String) (kind : RowWrite) (row : KeyedRow) :
    (onDuplicate table kind row).Plain := by
  unfold onDuplicate
  split
  · refine .word (by decide) (.join (by decide) fun fragment inside => ?_)
    obtain ⟨field, -, rfl⟩ := List.mem_map.1 inside
    exact plain_updateAssignment table _ field
  · exact .nil

theorem params_onDuplicate (table : String) (kind : RowWrite) (row : KeyedRow) :
    (onDuplicate table kind row).params = [] := by
  unfold onDuplicate
  split
  · refine (Fragment.params_join _ _).trans ?_
    rw [List.flatMap_map]
    exact List.flatMap_eq_nil_iff.2 fun field _ => params_updateAssignment table _ field
  · rfl

/-- The words of an insertion are neutral if those of its values are. -/
theorem plain_insertion (table : String) (kind : RowWrite) (row : KeyedRow) {values : Fragment}
    (plain : values.Plain) : (insertion table kind row values).Plain := by
  have start : Fragment.Plain [.word "INSERT INTO ", .identifier table, .word " ("] :=
    .word (by decide) (.name table (.word (by decide) .nil))
  have names : Fragment.Plain ([.word "INSERT INTO ", .identifier table, .word " ("] ++
      Fragment.names row.fields ++ [.word ") VALUES "]) :=
    (start.append (plain_names row.fields)).append (.word (by decide) .nil)
  exact (names.append plain).append (plain_onDuplicate table kind row)

/-- An insertion binds what its values bind. -/
theorem params_insertion (table : String) (kind : RowWrite) (row : KeyedRow) (values : Fragment) :
    (insertion table kind row values).params = values.params := by
  have words : Fragment.params ([.word "INSERT INTO ", .identifier table, .word " ("]) = [] := rfl
  have word : Fragment.params [.word ") VALUES "] = [] := rfl
  simp only [insertion, Fragment.params_append, words, word, params_names, params_onDuplicate,
    List.nil_append, List.append_nil]

/-! ### Tuples -/

theorem plain_tuple (values : List Value) : (tuple values).Plain := by
  refine .word (by decide) (.append (.join (by decide) fun fragment inside => ?_) ?_)
  · obtain ⟨value, -, rfl⟩ := List.mem_map.1 inside
    exact .slot value .nil
  · exact .word (by decide) .nil

theorem text_tuple (values : List Value) : (tuple values).text = "(" ++ marks values.length ++ ")" := by
  have slots : (values.map fun value => [Piece.slot value]).map Fragment.text =
      List.replicate values.length "?" := by
    rw [List.map_map, ← List.map_const']
    rfl
  have written : (tuple values).text =
      "(" ++ ((Fragment.join ", " (values.map fun value => [.slot value])).text ++ ")") := by
    simp [tuple, Fragment.parenthesized, Piece.text]
  rw [written, Fragment.text_join, slots, marks, String.append_assoc]

theorem params_tuple (values : List Value) : (tuple values).params = values := by
  rw [tuple, Fragment.params_parenthesized, Fragment.params_join, List.flatMap_map]
  exact List.flatMap_singleton' values

theorem text_tuples (rows : List (List Value)) :
    (Fragment.join ", " (rows.map tuple)).text = tuples rows := by
  rw [Fragment.text_join, List.map_map, tuples]
  congr 2
  funext row
  exact text_tuple row

theorem params_tuples (rows : List (List Value)) :
    (Fragment.join ", " (rows.map tuple)).params = rows.flatten := by
  rw [Fragment.params_join, List.flatMap_map]
  simp only [params_tuple]
  exact List.flatMap_id'

theorem plain_tuples (rows : List (List Value)) :
    (Fragment.join ", " (rows.map tuple)).Plain := by
  refine .join (by decide) fun fragment inside => ?_
  obtain ⟨row, -, rfl⟩ := List.mem_map.1 inside
  exact plain_tuple row

end SqlCraft.Write
