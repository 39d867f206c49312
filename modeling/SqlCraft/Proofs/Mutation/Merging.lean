/-
**Upserts merge rows and keep keys.**

What the statement of an upsert makes of a stored row with the same key is read from its assignments. These
are to the other fields that the data row names, or to its key if it names nothing else; then each column of
the key is set to the value that it has. Every assignment reads the stored row, if at all, in its own field
only, so their order makes no difference.

The incoming row is named alike in all statements. Where a table has this name too, a field behind it could
be of either row, and the assignments are not read at all.

* `Row.MergedInto` — what a data row is to make of a stored row;
* `Write.merges?_duplicateTokens` — the assignments of an upsert;
* `MergesRow` — assignments do this, whatever the rows hold;
* `Mutation.compile_merges` — those of a plan do;
* `Mutation.compile_merges_namesake` — a table with the name of the incoming row.
-/

import SqlCraft.Proofs.Mutation.Scope
import SqlCraft.Proofs.Mutation.Separation
import SqlCraft.Proofs.Sql.Merging

namespace SqlCraft

open Sql
open List (Forall₂)

/-! ### Merged rows -/

/-- What becomes of a value that is not key. -/
def RowWrite.combine (kind : RowWrite) (plus : Value → Value → Value) (incoming stored : Value) :
    Value :=
  if kind = .addUpsert then plus incoming stored else incoming

/-- What a data row is to make of a stored row with its key. -/
structure Row.MergedInto (row : Row) (table : Table) (combine : Value → Value → Value)
    (stored merged : String → Value) : Prop where
  key : ∀ field ∈ table.primaryKey, merged field = stored field
  unnamed : ∀ field ∉ row.fields, merged field = stored field
  named : ∀ entry ∈ row.otherEntries table, merged entry.1 = combine entry.2 (stored entry.1)
  /-- A row of nothing but key columns changes nothing. -/
  keyOnly : row.otherEntries table = [] → merged = stored

/-- The assignments for a data row do to every stored row with its key what they are to do. -/
structure MergesRow (table : Table) (kind : RowWrite) (row : Row) (merges : List Merge) : Prop where
  ne_nil : merges ≠ []
  /-- No key is added to itself. -/
  key : ∀ merge ∈ merges, merge.field ∈ table.primaryKey → merge.further = []
  merged : ∀ plus incoming stored, (∀ entry ∈ row.entries, incoming entry.1 = entry.2) →
    (∀ entry ∈ row.keyEntries table, stored entry.1 = entry.2) →
    row.MergedInto table (kind.combine plus) stored (merged plus incoming stored merges)

/-! ### Assignments -/

namespace Write

/-- The assignment of a field of the incoming row to the stored one, which may be added. -/
def updateMerge (adds : Bool) (field : String) : Merge :=
  ⟨field, .incoming field, if adds then [.stored field] else []⟩

theorem updateMerge_own (adds : Bool) (field : String) : (updateMerge adds field).Own := by
  intro other inside
  cases adds with
  | false => cases List.mem_singleton.1 inside
  | true => simpa [updateMerge] using inside

theorem merge?_updateTokens {table : String} (apart : table ≠ incoming) (adds : Bool)
    (field : String) :
    merge? table incoming (updateTokens ⟨table, field⟩ adds) = some (updateMerge adds field) := by
  have named : (Token.symbol incoming).asName? = some incoming := rfl
  have given : summand? table incoming [.symbol incoming, .symbol ".", .name field] =
      some (.incoming field) := by
    rw [summand?, named, if_neg fun same => apart (Option.some.inj same).symm, if_pos rfl]
  have stored : summand? table incoming [.name table, .symbol ".", .name field] =
      some (.stored field) := if_pos rfl
  cases adds with
  | false =>
    have read : [[.symbol incoming, .symbol ".", .name field]].mapM (summand? table incoming) =
        some [.incoming field] := by
      rw [List.mapM_cons, given]
      rfl
    exact merge?_append (by simp [incoming]) read
  | true =>
    have read : [[.symbol incoming, .symbol ".", .name field],
        [.name table, .symbol ".", .name field]].mapM (summand? table incoming) =
        some [.incoming field, .stored field] := by
      rw [List.mapM_cons, List.mapM_cons, given, stored]
      rfl
    exact merge?_append (by simp [incoming]) read

/-- **The assignments of an upsert are read one by one.** -/
theorem merges?_duplicateTokens {table : String} (apart : table ≠ incoming) {kind : RowWrite}
    (merging : kind = .upsert ∨ kind = .addUpsert) (row : KeyedRow) :
    merges? table (duplicateTokens table kind row) = some ((updated row).map
      (updateMerge (kind = .addUpsert && !row.others.isEmpty))) := by
  have named : (Token.symbol incoming).asName? = some incoming := rfl
  rw [duplicateTokens, if_pos merging]
  simp only [List.map_cons, List.map_nil, List.cons_append, List.nil_append, merges?]
  rw [named, Option.bind_eq_bind, Option.bind_some, if_neg (Ne.symm apart)]
  refine mapM_parts_commas _ _ _ _ (fun field _ => merge?_updateTokens apart _ field) fun field _ => ?_
  unfold updateTokens
  split <;> simp [ColumnName.tokens, incoming]

/-- Fields with an assignment of their own, and all others. -/
theorem merged_updateMerges (plus : Value → Value → Value) (incoming stored : String → Value)
    (adds : Bool) {fields : List String} (distinct : fields.Nodup) (field : String) :
    merged plus incoming stored (fields.map (updateMerge adds)) field =
      if field ∈ fields then
        if adds then plus (incoming field) (stored field) else incoming field
      else stored field := by
  have owns : ∀ merge ∈ fields.map (updateMerge adds), merge.Own := by
    intro merge inside
    obtain ⟨name, -, rfl⟩ := List.mem_map.1 inside
    exact updateMerge_own adds name
  have names : (fields.map (updateMerge adds)).map Merge.field = fields := by
    rw [List.map_map]
    exact List.map_id fields
  split
  · rename_i inside
    rw [← names] at distinct
    refine (merged_of_mem owns distinct (List.mem_map_of_mem inside)).trans ?_
    cases adds <;> rfl
  · rename_i outside
    refine merged_of_forall_ne fun merge inside same => outside ?_
    obtain ⟨name, among, rfl⟩ := List.mem_map.1 inside
    exact same ▸ among

/-! ### Data rows -/

variable {table : Table} {row : Row}

theorem updated_eq (distinct : table.columnNames.Nodup) (row : Row) :
    updated (.ofRow table row) =
      if row.otherEntries table = [] then (row.keyEntries table).map Prod.fst
      else (row.otherEntries table).map Prod.fst := by
  rw [updated, KeyedRow.ofRow_key distinct, KeyedRow.ofRow_others distinct]
  simp only [List.isEmpty_iff]

/-- A row of nothing but key columns gives each of them the value that it has. -/
theorem mergesRow_keyOnly (only : row.otherEntries table = []) (some : row.fields ≠ [])
    (kind : RowWrite) :
    MergesRow table kind row (((row.keyEntries table).map Prod.fst).map (updateMerge false)) where
  ne_nil := by
    have key : row.keyEntries table = row.entries := List.filter_eq_self.2 fun entry inside =>
      decide_eq_true (Row.otherEntries_eq_nil_iff.1 only entry.1 (List.mem_map_of_mem inside))
    rw [key]
    simpa [Row.fields] using some
  key := by
    intro merge inside _
    obtain ⟨field, -, rfl⟩ := List.mem_map.1 inside
    rfl
  merged := by
    intro plus incoming stored given same
    have kept : merged plus incoming stored
        (((row.keyEntries table).map Prod.fst).map (updateMerge false)) = stored := by
      funext field
      rw [merged_updateMerges plus incoming stored false (row.nodup_keyEntries table)]
      split
      -- The key of the incoming row is that of the stored one.
      · rename_i inside
        obtain ⟨entry, among, rfl⟩ := List.mem_map.1 inside
        exact (given entry (List.mem_of_mem_filter among)).trans (same entry among).symm
      · rfl
    rw [kept]
    exact {
      key := fun _ _ => rfl
      unnamed := fun _ _ => rfl
      named := fun entry inside => by
        rw [only] at inside
        cases inside
      keyOnly := fun _ => rfl }

/-- A row with other columns changes these and nothing else. -/
theorem mergesRow_others (more : row.otherEntries table ≠ []) (kind : RowWrite) :
    MergesRow table kind row
      (((row.otherEntries table).map Prod.fst).map (updateMerge (kind = .addUpsert))) where
  ne_nil := by simpa using more
  key := by
    intro merge inside isKey
    obtain ⟨field, among, rfl⟩ := List.mem_map.1 inside
    obtain ⟨entry, other, rfl⟩ := List.mem_map.1 among
    exact absurd isKey (of_decide_eq_true (List.mem_filter.1 other).2)
  merged := by
    intro plus incoming stored given _
    have value := merged_updateMerges plus incoming stored (kind = .addUpsert)
      (row.nodup_otherEntries table)
    have kept {field : String} (outside : ∀ entry ∈ row.otherEntries table, entry.1 ≠ field) :
        merged plus incoming stored (((row.otherEntries table).map Prod.fst).map
          (updateMerge (kind = .addUpsert))) field = stored field := by
      refine (value field).trans (if_neg fun inside => ?_)
      obtain ⟨entry, among, same⟩ := List.mem_map.1 inside
      exact outside entry among same
    constructor
    · intro field isKey
      exact kept fun entry among same =>
        of_decide_eq_true (List.mem_filter.1 among).2 (same ▸ isKey)
    · intro field outside
      exact kept fun entry among same =>
        outside (same ▸ List.mem_map_of_mem (List.mem_of_mem_filter among))
    · intro entry inside
      refine (value entry.1).trans ((if_pos (List.mem_map_of_mem inside)).trans ?_)
      rw [given entry (List.mem_of_mem_filter inside), RowWrite.combine]
      simp
    · exact fun none => absurd none more

/-- **The assignments of an upsert merge its row into every stored row with its key.** -/
theorem mergesRow_updated (distinct : table.columnNames.Nodup) (some : row.fields ≠ [])
    (kind : RowWrite) :
    MergesRow table kind row ((updated (.ofRow table row)).map
      (updateMerge (kind = .addUpsert && !(KeyedRow.ofRow table row).others.isEmpty))) := by
  rw [updated_eq distinct, KeyedRow.ofRow_others distinct]
  by_cases only : row.otherEntries table = []
  · rw [if_pos only, only, List.isEmpty_nil, Bool.not_true, Bool.and_false]
    exact mergesRow_keyOnly only some kind
  · rw [if_neg only, List.isEmpty_eq_false_iff.2 only, Bool.not_false, Bool.and_true]
    exact mergesRow_others only kind

end Write

/-! ### Statements -/

/-- The statement of an upsert inserts its row, and its assignments merge it into a stored one. -/
def Request.Merges (request : Request) (statement : Statement) : Prop :=
  ∀ kind row, request.task = .row kind row → kind = .upsert ∨ kind = .addUpsert →
    ∃ further merges, statement.ReadAs (.insert request.table.name row.entries further) ∧
      merges? request.table.name further = some merges ∧ MergesRow request.table kind row merges

theorem Request.Makes.merges {request : Request} {write : Write} (makes : request.Makes write)
    (filled : request.Filled) (distinct : request.table.columnNames.Nodup)
    (apart : request.table.name ≠ Write.incoming) :
    request.Merges (write.statement request.table.name) := by
  intro kind row asked merging
  obtain ⟨table, task⟩ := request
  cases asked
  have inserts : kind.insertsValues := by rcases merging with rfl | rfl <;> rfl
  have made : write = .row kind (.ofRow table row) := by cases makes <;> rfl
  rw [made]
  exact ⟨_, _, Write.readAs_insertion _ inserts _, Write.merges?_duplicateTokens apart merging _,
    Write.mergesRow_updated distinct (filled kind row rfl) kind⟩

namespace Mutation

/-- **Upserts merge rows and keep keys**, in sound tables that are not named like the incoming row. Every
statement of an upsert, also in a batch, has assignments that give the columns named beside the key their
incoming values, added to the stored ones if asked for, and leave all else as it is. -/
theorem compile_merges (mutation : Mutation) (batched : Bool) (plan : Plan)
    (sound : ∀ node ∈ mutation.preorder, node.table.validate = .ok ())
    (compiled : mutation.compile batched = .ok plan) :
    (∀ request ∈ mutation.requests, ∃ entry ∈ plan.tables, entry.table = request.table.name) ∧
    ∀ entry ∈ plan.tables, entry.table ≠ Write.incoming → Forall₂ Request.Merges
      (mutation.requestsTo entry.table) (entry.statements.flatMap Statement.separated) := by
  obtain ⟨-, covered, entries⟩ := compile_requests compiled
  refine ⟨covered, fun entry inside apart => ?_⟩
  obtain ⟨visited, ran, -⟩ := map_eq_ok compiled
  obtain ⟨writes, same, makes⟩ := entries entry inside
  have made : entry.statements = Write.statements entry.table batched writes := by rw [same]; rfl
  rw [made, Write.statements_separated, List.forall₂_map_right_iff]
  have known : ∀ request ∈ mutation.requestsTo entry.table,
      request.Filled ∧ request.table.columnNames.Nodup := by
    intro request asked
    have among := (List.mem_filter.1 asked).1
    obtain ⟨node, visited, own⟩ := List.mem_flatMap.1 among
    obtain ⟨task, -, rfl⟩ := List.mem_map.1 own
    exact ⟨filled_of_visitedWrites ran _ among, Table.nodup_columnNames (sound node visited)⟩
  refine ((List.forall₂_and_left _ _).2 ⟨known, makes⟩).imp fun request write both => ?_
  obtain ⟨⟨filled, distinct⟩, table, makes⟩ := both
  rw [← table]
  exact makes.merges filled distinct (table ▸ apart)

/-- Two rows that are added in one batch; in a table with a key of two columns, a row of nothing but its key,
and one with more. -/
theorem compile_merges_plays :
    let plays : Table := ⟨"plays", [{ name := "song", type := .int, primaryKey := true },
      { name := "count", type := .int }]⟩
    let songs : Table := ⟨"songs", [{ name := "album", type := .int, primaryKey := true },
      { name := "track", type := .int, primaryKey := true }, { name := "title", type := .varchar }]⟩
    let mutation : Mutation := .node ⟨plays, .rows .addUpsert
        [{ entries := [("count", .int 5), ("song", .int 1)] },
          { entries := [("count", .int 6), ("song", .int 2)] }]⟩
      [("new", Mutation.ofTable songs
          (.rows .addUpsert [{ entries := [("track", .int 2), ("album", .int 1)] }])),
        ("named", Mutation.ofTable songs
          (.rows .upsert [{ entries := [("title", .null), ("track", .int 2), ("album", .int 1)] }]))]
    let plan : Plan := ⟨[
      ⟨"plays", false, [⟨"INSERT INTO \x60plays\x60 (\x60count\x60, \x60song\x60) VALUES ? AS NEW_VAL " ++
        "ON DUPLICATE KEY UPDATE " ++
        "\x60plays\x60.\x60count\x60 = NEW_VAL.\x60count\x60 + \x60plays\x60.\x60count\x60",
        .rows [[.int 5, .int 1], [.int 6, .int 2]]⟩]⟩,
      ⟨"songs", true, [
        ⟨"INSERT INTO \x60songs\x60 (\x60track\x60, \x60album\x60) VALUES (?, ?) AS NEW_VAL " ++
          "ON DUPLICATE KEY UPDATE \x60songs\x60.\x60track\x60 = NEW_VAL.\x60track\x60, " ++
          "\x60songs\x60.\x60album\x60 = NEW_VAL.\x60album\x60", .values [.int 2, .int 1]⟩,
        ⟨"INSERT INTO \x60songs\x60 (\x60title\x60, \x60track\x60, \x60album\x60) VALUES (?, ?, ?) " ++
          "AS NEW_VAL ON DUPLICATE KEY UPDATE \x60songs\x60.\x60title\x60 = NEW_VAL.\x60title\x60",
          .values [.null, .int 2, .int 1]⟩]⟩]⟩
    (∀ node ∈ mutation.preorder, node.table.validate = .ok ()) ∧
    mutation.compile true = .ok plan ∧
    ∀ entry ∈ plan.tables, entry.table ≠ Write.incoming ∧ Forall₂ Request.Merges
      (mutation.requestsTo entry.table) (entry.statements.flatMap Statement.separated) := by
  intro plays songs mutation plan
  have sound : ∀ node ∈ mutation.preorder, node.table.validate = .ok () := by decide +kernel
  have compiled : mutation.compile true = .ok plan := by decide +kernel
  have apart : ∀ entry ∈ plan.tables, entry.table ≠ Write.incoming := by decide +kernel
  exact ⟨sound, compiled, fun entry inside => ⟨apart entry inside,
    (compile_merges mutation true plan sound compiled).2 entry inside (apart entry inside)⟩⟩

/-- Nothing can be read of what a stored row becomes if its table has the name of the incoming row. -/
theorem compile_merges_namesake :
    let table : Table := ⟨"NEW_VAL", [{ name := "id", type := .int, primaryKey := true },
      { name := "count", type := .int }]⟩
    let row : Row := { entries := [("id", .int 1), ("count", .int 5)] }
    let statement : Statement :=
      ⟨"INSERT INTO \x60NEW_VAL\x60 (\x60id\x60, \x60count\x60) VALUES (?, ?) " ++
      "AS NEW_VAL ON DUPLICATE KEY UPDATE \x60NEW_VAL\x60.\x60count\x60 = NEW_VAL.\x60count\x60",
      .values [.int 1, .int 5]⟩
    let mutation := Mutation.ofTable table (.rows .upsert [row])
    table.validate = .ok () ∧ mutation.compile false = .ok ⟨[⟨"NEW_VAL", false, [statement]⟩]⟩ ∧
    ∃ further, statement.ReadAs (.insert "NEW_VAL" row.entries further) ∧
      merges? "NEW_VAL" further = none ∧ ¬ Request.Merges ⟨table, .row .upsert row⟩ statement := by
  intro table row statement mutation
  have read : statement.ReadAs (.insert "NEW_VAL" row.entries _) :=
    @Write.readAs_insertion "NEW_VAL" .upsert rfl (.ofRow table row)
  have unread : merges? "NEW_VAL" (Write.duplicateTokens "NEW_VAL" .upsert (.ofRow table row)) = none :=
    merges?_self (by decide) _
  refine ⟨by decide +kernel, by decide +kernel, _, read, unread, fun merges => ?_⟩
  obtain ⟨further, list, again, found, -⟩ := merges .upsert row rfl (.inl rfl)
  cases read.eq again
  cases unread.symm.trans found

end Mutation

end SqlCraft
