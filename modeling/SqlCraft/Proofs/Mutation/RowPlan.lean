/-
**Writes planned in lists.**

A write can be planned without a fragment: the names of its fields and their values are kept in lists apart
from each other, those of the primary key and the others once more in lists of their own, and so are the
condition and the source that it may have. The text of a statement is put together from the names, its
parameters from the values, and nothing ties a placeholder of the text to the value it stands for.

* `RowPlan` — what is kept of a write, and `RowPlan.ofWrite`, what is to be kept of it;
* `planRow` — a data row is sorted into the lists, field by field, and checked;
* `RowPlan.statement`, `RowPlan.insertion` — text and parameters;
* `planRow_eq` — what is planned is the write of the row, with the same offences;
* `RowPlan.statement_eq`, `RowPlan.insertion_eq` — its text and parameters are those of the write.
-/

import SqlCraft.Mutation.Plan
import SqlCraft.Proofs.Mutation.Insertion
import SqlCraft.Proofs.Query.Walk

namespace SqlCraft

open Sql (BoundText ColumnName Fragment Piece Statement marks qualified quote quoteList)

/-! ### Plans -/

/-- What is done with a row, or with all rows that are meant. -/
inductive PlanKind where
  | row (kind : RowWrite)
  | setUpdate
  | setDelete
  | setInsert
deriving DecidableEq

/-- What is kept of a write. -/
structure RowPlan where
  kind : PlanKind
  fields : List String := []
  values : List Value := []
  keyFields : List String := []
  keyValues : List Value := []
  otherFields : List String := []
  otherValues : List Value := []
  condition : Option WhereClause := none
  source : Option BoundText := none

namespace RowPlan

/-- What is to be kept of a write. -/
def ofWrite : Write → RowPlan
  | .row kind row =>
    { kind := .row kind, fields := row.fields, values := row.values
      keyFields := row.key.map Prod.fst, keyValues := row.key.map Prod.snd
      otherFields := row.others.map Prod.fst, otherValues := row.others.map Prod.snd }
  | .update entries clauses =>
    { kind := .setUpdate, fields := entries.map Prod.fst, values := entries.map Prod.snd
      condition := some (.ofFragments (Clause.fragments clauses)) }
  | .delete clauses =>
    { kind := .setDelete, condition := some (.ofFragments (Clause.fragments clauses)) }
  | .insertSelect columns source =>
    { kind := .setInsert, fields := columns, source := some source.fragment.bound }

/-- One more field with its value. -/
def put (plan : RowPlan) (entry : String × Value) : RowPlan :=
  { plan with fields := plan.fields ++ [entry.1], values := plan.values ++ [entry.2] }

/-- One more field with its value, sorted by whether it is key. -/
def sortIn (plan : RowPlan) (isKey : Bool) (entry : String × Value) : RowPlan :=
  let plan := plan.put entry
  if isKey then
    { plan with keyFields := plan.keyFields ++ [entry.1], keyValues := plan.keyValues ++ [entry.2] }
  else
    { plan with
      otherFields := plan.otherFields ++ [entry.1], otherValues := plan.otherValues ++ [entry.2] }

end RowPlan

/-- Refuses a plan whose row cannot be matched by its key, or has nothing to update, or too much to
delete. -/
def RowPlan.check (table : Table) (kind : RowWrite) (plan : RowPlan) : Compiled Unit :=
  if kind = .update ∨ kind = .delete then
    let complete := !table.primaryKey.isEmpty &&
      table.primaryKey.all fun field => plan.keyFields.any fun name => name == field
    if !complete then .error (.incompleteKey table.name)
    else if kind = .update ∧ plan.otherFields = [] then
      .error (.descriptor (.nothingToUpdate table.name))
    else if kind = .delete ∧ plan.otherFields ≠ [] then
      .error (.descriptor (.deleteBeyondKey table.name plan.otherFields))
    else .ok ()
  else .ok ()

/-- A data row is sorted into a plan, which is checked for what is done with it. -/
def planRow (table : Table) (kind : RowWrite) (row : Row) : Compiled RowPlan :=
  if row.isEmpty then .error (.descriptor (.emptyRow table.name))
  else do
    let plan ← row.entries.foldlM (fun plan entry => (table.require entry.1).map fun _ =>
      plan.sortIn (table.isPrimaryKey entry.1) entry) ({ kind := .row kind } : RowPlan)
    plan.check table kind
    return plan

/-! ### Statements -/

/-- Assignments of placeholders. -/
def assignmentWords (column : String → String) (fields : List String) : String :=
  String.intercalate ", " (fields.map fun field => column field ++ " = ?")

/-- Comparisons of key columns with placeholders. -/
def keyMatchWords (table : String) (fields : List String) : String :=
  String.intercalate " AND " (fields.map fun field => qualified table field ++ " = ?")

/-- The assignment of one field of an incoming row to the stored one, which may be added. -/
def updateWords (table : String) (adds : Bool) (field : String) : String :=
  let stored := qualified table field
  let incoming := Write.incoming ++ "." ++ quote field
  if adds then stored ++ " = " ++ incoming ++ " + " ++ stored else stored ++ " = " ++ incoming

namespace RowPlan

/-- The text of an insertion, with the given text behind `VALUES`. -/
def insertion (table : String) (plan : RowPlan) (values : String) : String :=
  let opening := "INSERT INTO " ++ quote table ++ " (" ++ quoteList plan.fields ++ ") VALUES " ++ values
  if plan.kind = .row .upsert ∨ plan.kind = .row .addUpsert then
    let updated := if plan.otherFields.isEmpty then plan.keyFields else plan.otherFields
    let adds := plan.kind = .row .addUpsert && !plan.otherFields.isEmpty
    opening ++ (" AS " ++ Write.incoming ++ " ON DUPLICATE KEY UPDATE " ++
      String.intercalate ", " (updated.map (updateWords table adds)))
  else opening

/-- The condition of a plan behind a text, and its values behind others. -/
def restrict (plan : RowPlan) (sql : String) (params : List Value) : Statement :=
  match plan.condition with
  | some asked =>
    if asked.isEmpty then ⟨sql, .values params⟩
    else ⟨sql ++ " WHERE " ++ asked.sql, .values (params ++ asked.params)⟩
  | none => ⟨sql, .values params⟩

/-- The statement of a plan. -/
def statement (table : String) (plan : RowPlan) : Statement :=
  match plan.kind with
  | .row .insert | .row .upsert | .row .addUpsert =>
    ⟨plan.insertion table ("(" ++ marks plan.values.length ++ ")"), .values plan.values⟩
  | .row .update =>
    ⟨"UPDATE " ++ quote table ++ " SET " ++ assignmentWords quote plan.otherFields ++ " WHERE " ++
      keyMatchWords table plan.keyFields, .values (plan.otherValues ++ plan.keyValues)⟩
  | .row .delete =>
    ⟨"DELETE FROM " ++ quote table ++ " WHERE " ++ keyMatchWords table plan.keyFields,
      .values plan.keyValues⟩
  | .setUpdate =>
    plan.restrict ("UPDATE " ++ quote table ++ " SET " ++
      assignmentWords (qualified table) plan.fields) plan.values
  | .setDelete => plan.restrict ("DELETE FROM " ++ quote table) []
  | .setInsert =>
    let source := plan.source.getD ⟨"", []⟩
    ⟨"INSERT INTO " ++ quote table ++ " (" ++ quoteList plan.fields ++ ") " ++ source.sql,
      .values source.params⟩

end RowPlan

/-! ### What is planned -/

namespace RowPlan

/-- Fields that are put to a plan one after another are all declared, or the first that is not is refused. -/
theorem foldlM_require (table : Table) (put : RowPlan → String × Value → RowPlan)
    (entries : List (String × Value)) (plan : RowPlan) :
    entries.foldlM (fun plan entry => (table.require entry.1).map fun _ => put plan entry) plan =
      ((entries.map Prod.fst).forM table.require).map fun _ => entries.foldl put plan := by
  induction entries generalizing plan with
  | nil => rfl
  | cons entry rest ih =>
    rw [List.foldlM_cons]
    show (Except.map _ (table.require entry.1) >>= _) =
      Except.map _ (table.require entry.1 >>= fun _ => (rest.map Prod.fst).forM table.require)
    exact map_bind_commutes fun _ => ih (put plan entry)

theorem foldl_put (entries : List (String × Value)) (plan : RowPlan) :
    entries.foldl put plan = { plan with
      fields := plan.fields ++ entries.map Prod.fst
      values := plan.values ++ entries.map Prod.snd } := by
  induction entries generalizing plan with
  | nil => simp
  | cons entry rest ih => simp [ih, put]

theorem foldl_sortIn (isKey : String → Bool) (entries : List (String × Value)) (plan : RowPlan) :
    entries.foldl (fun plan entry => plan.sortIn (isKey entry.1) entry) plan =
      let key := entries.filter fun entry => isKey entry.1
      let others := entries.filter fun entry => !isKey entry.1
      { plan with
        fields := plan.fields ++ entries.map Prod.fst, values := plan.values ++ entries.map Prod.snd
        keyFields := plan.keyFields ++ key.map Prod.fst
        keyValues := plan.keyValues ++ key.map Prod.snd
        otherFields := plan.otherFields ++ others.map Prod.fst
        otherValues := plan.otherValues ++ others.map Prod.snd } := by
  induction entries generalizing plan with
  | nil => simp
  | cons entry rest ih =>
    rw [List.foldl_cons, ih]
    cases key : isKey entry.1 <;> simp [sortIn, put, key]

theorem check_eq (table : Table) (kind : RowWrite) (row : KeyedRow) :
    (ofWrite (.row kind row)).check table kind = MutationNode.requireKey table kind row := by
  have complete : (table.primaryKey.all fun field =>
        (ofWrite (.row kind row)).keyFields.any fun name => name == field) =
      table.primaryKey.all fun field => row.key.any fun entry => entry.1 == field := by
    refine congrArg table.primaryKey.all (funext fun field => ?_)
    exact List.any_map
  have others : (ofWrite (.row kind row)).otherFields = row.others.map Prod.fst := rfl
  simp only [check, complete, others]
  cases kind <;> simp [MutationNode.requireKey, KeyedRow.hasKey, RowWrite.insertsValues] <;> rfl

/-- **What is planned for a row is its write**, or it is refused for the same reason. -/
theorem planRow_eq (table : Table) (kind : RowWrite) (row : Row) :
    planRow table kind row = (MutationNode.rowWrite table kind row).map ofWrite := by
  unfold planRow MutationNode.rowWrite
  by_cases empty : row.isEmpty
  · rw [if_pos empty, if_pos empty]
    rfl
  · have check := check_eq table kind (KeyedRow.ofRow table row)
    have sorted := foldl_sortIn table.isPrimaryKey row.entries { kind := .row kind }
    rw [if_neg empty, if_neg empty, foldlM_require, sorted]
    refine map_bind_commutes fun _ => ?_
    show ((ofWrite (.row kind (KeyedRow.ofRow table row))).check table kind >>= fun _ => _) =
      (MutationNode.requireKey table kind (KeyedRow.ofRow table row) >>= fun _ => _).map ofWrite
    rw [check]
    exact bind_commutes fun _ => rfl

end RowPlan

/-! ### Text and parameters -/

namespace Write

theorem text_assignments (column : String → Fragment) (words : String → String)
    (written : ∀ field, (column field).text = words field) (entries : List (String × Value)) :
    (assignments column entries).text = assignmentWords words (entries.map Prod.fst) := by
  rw [assignments, Fragment.text_join, assignmentWords, List.map_map, List.map_map]
  refine congrArg (String.intercalate ", ") (List.map_congr_left fun entry _ => ?_)
  simp [written, Piece.text]

theorem params_assignments (column : String → Fragment) (unbound : ∀ field, (column field).params = [])
    (entries : List (String × Value)) :
    (assignments column entries).params = entries.map Prod.snd := by
  rw [assignments, Fragment.params_join, List.flatMap_map]
  simpa [unbound] using List.map_eq_flatMap.symm

theorem text_keyMatch (table : String) (key : List (String × Value)) :
    (keyMatch table key).text = keyMatchWords table (key.map Prod.fst) := by
  rw [keyMatch, Fragment.text_join, keyMatchWords, List.map_map, List.map_map]
  refine congrArg (String.intercalate " AND ") (List.map_congr_left fun entry _ => ?_)
  simp [ColumnName.text_fragment, Piece.text]

theorem params_keyMatch (table : String) (key : List (String × Value)) :
    (keyMatch table key).params = key.map Prod.snd := by
  rw [keyMatch, Fragment.params_join, List.flatMap_map]
  simpa using List.map_eq_flatMap.symm

theorem text_updateAssignment (table : String) (adds : Bool) (field : String) :
    (updateAssignment table adds field).text = updateWords table adds field := by
  have stored := ColumnName.text_fragment ⟨table, field⟩
  cases adds <;>
    simp only [updateAssignment, updateWords, stored, Piece.text, Fragment.text_append,
      Fragment.text_cons, Fragment.text_nil, String.append_assoc, String.append_empty, if_true,
      Bool.false_eq_true, if_false, List.append_nil]

theorem text_onDuplicate (table : String) (kind : RowWrite) (row : KeyedRow) :
    (onDuplicate table kind row).text =
      if kind = .upsert ∨ kind = .addUpsert then
        " AS " ++ incoming ++ " ON DUPLICATE KEY UPDATE " ++ String.intercalate ", "
          ((updated row).map (updateWords table (kind = .addUpsert && !row.others.isEmpty)))
      else "" := by
  unfold onDuplicate
  split
  · rw [Fragment.text_cons, Fragment.text_join, List.map_map]
    refine congrArg (_ ++ String.intercalate ", " ·) (List.map_congr_left fun field _ => ?_)
    exact text_updateAssignment table _ field
  · rfl

end Write

namespace RowPlan

/-- **The text of an insertion is put together from the names that are kept.** -/
theorem insertion_eq (table : String) (kind : RowWrite) (row : KeyedRow) (values : Fragment) :
    (ofWrite (.row kind row)).insertion table values.text =
      (Write.insertion table kind row values).text := by
  have word : (") VALUES " : String) = ") " ++ "VALUES " := rfl
  have updated : (if (row.others.map Prod.fst).isEmpty then row.key.map Prod.fst
      else row.others.map Prod.fst) = Write.updated row := by
    rw [Write.updated, List.isEmpty_map]
  have fields : (ofWrite (.row kind row)).fields = row.fields := rfl
  have others : (ofWrite (.row kind row)).otherFields.isEmpty = row.others.isEmpty := List.isEmpty_map
  rw [Write.text_insertion, Write.text_opening, Write.text_onDuplicate]
  unfold insertion
  rw [fields, others]
  cases kind with
  | insert | update | delete =>
    simp [ofWrite, word, String.append_assoc]
  | upsert | addUpsert =>
    simp [ofWrite, word, String.append_assoc, Write.updated]

/-- The condition of a plan behind a text says what that of its write says behind a fragment. -/
theorem restrict_eq (plan : RowPlan) {clauses : List Clause} {sql : String} {params : List Value}
    {fragment : Fragment} (asked : plan.condition = some (.ofFragments (Clause.fragments clauses)))
    (text : fragment.text = sql) (values : fragment.params = params) :
    plan.restrict sql params = .ofFragment (fragment ++ Clause.whereFragment clauses) := by
  rw [Statement.ofFragment, Fragment.text_append, Fragment.params_append, Clause.params_whereFragment,
    text, values]
  simp only [restrict, asked]
  cases clauses with
  | nil => simp [WhereClause.isEmpty, WhereClause.ofFragments, Clause.fragments, Clause.whereFragment]
  | cons clause rest =>
    have filled : (WhereClause.ofFragments (Clause.fragments (clause :: rest))).isEmpty = false := rfl
    rw [filled, WhereClause.sql_ofFragments, ← Clause.conjunction]
    simp [Clause.whereFragment, Piece.text, String.append_assoc]

/-- **Text and parameters of a plan are those of its write.** -/
theorem statement_eq (table : String) (write : Write) :
    (ofWrite write).statement table = write.statement table := by
  cases write with
  | row kind row =>
    have inserted (kind : RowWrite) :
        Statement.mk ((ofWrite (.row kind row)).insertion table ("(" ++ marks row.values.length ++ ")"))
          (.values row.values) = .ofFragment (Write.insertion table kind row (Write.tuple row.values)) := by
      rw [← Write.text_tuple, insertion_eq, Statement.ofFragment, Write.params_insertion,
        Write.params_tuple]
    cases kind with
    | insert | upsert | addUpsert => exact inserted _
    | update =>
      have assigned := Write.text_assignments (fun field => [.identifier field]) quote
        (fun field => by simp [Piece.text]) row.others
      have values := Write.params_assignments (fun field => [.identifier field]) (fun _ => rfl)
        row.others
      refine congrArg₂ (fun sql params => Statement.mk sql (.values params)) ?_ ?_
      · simp [Write.fragment, Write.rowFragment, assigned, Write.text_keyMatch, ofWrite, Piece.text,
          String.append_assoc]
      · simp [Write.fragment, Write.rowFragment, values, Write.params_keyMatch, ofWrite]
    | delete =>
      refine congrArg₂ (fun sql params => Statement.mk sql (.values params)) ?_ ?_
      · simp [Write.fragment, Write.rowFragment, Write.text_keyMatch, ofWrite, Piece.text,
          String.append_assoc]
      · simp [Write.fragment, Write.rowFragment, Write.params_keyMatch, ofWrite]
  | update entries clauses =>
    have assigned := Write.text_assignments (fun field => (ColumnName.mk table field).fragment)
      (qualified table) (fun field => ColumnName.text_fragment ⟨table, field⟩) entries
    have values := Write.params_assignments (fun field => (ColumnName.mk table field).fragment)
      (fun field => ColumnName.params_fragment ⟨table, field⟩) entries
    refine restrict_eq (ofWrite (.update entries clauses)) rfl ?_ ?_
    · simp [assigned, Piece.text, String.append_assoc, ofWrite]
    · simp [values, ofWrite]
  | delete clauses =>
    refine restrict_eq (ofWrite (.delete clauses)) rfl ?_ rfl
    simp [Piece.text]
  | insertSelect columns source =>
    refine congrArg₂ (fun sql params => Statement.mk sql (.values params)) ?_ ?_
    · simp [ofWrite, Write.fragment, Fragment.bound, Fragment.text_names, Piece.text,
        String.append_assoc]
    · simp [ofWrite, Write.fragment, Fragment.bound, Write.params_names]

end RowPlan

end SqlCraft
