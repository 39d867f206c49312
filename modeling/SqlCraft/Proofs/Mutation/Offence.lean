/-
**Which mutations compile.**

The nodes of a mutation are checked in pre-order, the rows of a node in their order. A row may be empty or
name fields that its table does not declare; a row to update or delete may lack part of the primary key, or
the table may have none; there may be nothing left to update, or something left of a row to delete. What is
done to whole sets may assign nothing or name unknown fields, and its filter or its query may be refused.
A mutation over sound tables compiles exactly if none of this is the case, and is refused for what comes
first.

* `Row.offences`, `MutationNode.offences`, `Mutation.offences` — all that is wrong, in order;
* `Row.Writable`, `MutationNode.WellFormed` — nothing is wrong with a row, at a node;
* `Mutation.visitedWrites_judged` — compiling fails with the first offence;
* `Mutation.compile_wellFormed` — which mutations compile, and why others are refused.
-/

import SqlCraft.Proofs.Mutation.Scope
import SqlCraft.Proofs.Query.Offence

namespace SqlCraft

/-! ### What may be wrong -/

namespace Row

/-- The row names every field of a primary key, and there is one. -/
def CoversKey (row : Row) (table : Table) : Prop :=
  table.primaryKey ≠ [] ∧ ∀ field ∈ table.primaryKey, field ∈ row.fields

instance (row : Row) (table : Table) : Decidable (row.CoversKey table) :=
  inferInstanceAs (Decidable (_ ∧ _))

/-- What is wrong with the key of a row, and with its other fields beside it. -/
def keyOffences (row : Row) (table : Table) (kind : RowWrite) : List CompileError :=
  if kind.insertsValues then []
  else (if row.CoversKey table then [] else [.incompleteKey table.name]) ++
    ((if kind = .update ∧ row.otherEntries table = [] then
        [.descriptor (.nothingToUpdate table.name)] else []) ++
      if kind = .delete ∧ row.otherEntries table ≠ [] then
        [.descriptor (.deleteBeyondKey table.name ((row.otherEntries table).map Prod.fst))] else [])

/-- All that is wrong with a data row, in order. -/
def offences (row : Row) (table : Table) (kind : RowWrite) : List CompileError :=
  (if row.isEmpty then [.descriptor (.emptyRow table.name)] else []) ++
    (row.fields.flatMap table.fieldOffences ++ row.keyOffences table kind)

/-- Nothing is wrong with a data row. -/
structure Writable (row : Row) (table : Table) (kind : RowWrite) : Prop where
  /-- It is not empty. -/
  filled : row.fields ≠ []
  /-- Its fields are declared. -/
  declared : ∀ field ∈ row.fields, table.declares field
  /-- To be updated or deleted, it has the whole primary key, and there is one. -/
  keyed : kind = .update ∨ kind = .delete → row.CoversKey table
  /-- To be updated, it has another field, too. -/
  more : kind = .update → ∃ field ∈ row.fields, field ∉ table.primaryKey
  /-- To be deleted, it has no other field. -/
  only : kind = .delete → ∀ field ∈ row.fields, field ∈ table.primaryKey

end Row

namespace MutationNode

/-- All that is wrong at a node, in order. -/
def offences (node : MutationNode) : List CompileError :=
  match node.op with
  | .rows kind rows => rows.flatMap fun row => row.offences node.table kind
  | .setUpdate assignments filter =>
    (if assignments.isEmpty then [.descriptor (.nothingToSet node.table.name)] else []) ++
      (assignments.fields.flatMap node.table.fieldOffences ++ filter.offences node.table)
  | .setDelete filter => filter.offences node.table
  | .setInsert columns source => columns.flatMap node.table.fieldOffences ++ source.offences

/-- Nothing is wrong at a node. -/
def WellFormed (node : MutationNode) : Prop :=
  match node.op with
  | .rows kind rows => ∀ row ∈ rows, row.Writable node.table kind
  | .setUpdate assignments filter => assignments.fields ≠ [] ∧
      (∀ field ∈ assignments.fields, node.table.declares field) ∧
      ∃ clauses, filter.compile node.table = .ok clauses
  | .setDelete filter => ∃ clauses, filter.compile node.table = .ok clauses
  | .setInsert columns source => (∀ column ∈ columns, node.table.declares column) ∧
      ∃ built, source.build = .ok built

end MutationNode

/-- All that is wrong with a mutation, in the order of its nodes. -/
def Mutation.offences (mutation : Mutation) : List CompileError :=
  mutation.preorder.flatMap MutationNode.offences

/-! ### Nothing is wrong if there are no offences -/

/-- A row is refused for being empty unless it has fields. -/
theorem Row.emptyOffences_eq_nil_iff {row : Row} {cause : CompileError} :
    (if row.isEmpty then [cause] else []) = [] ↔ row.fields ≠ [] := by
  rw [ne_eq, ← isEmpty_iff]
  simp

theorem Row.keyOffences_eq_nil_iff {row : Row} {table : Table} {kind : RowWrite} :
    row.keyOffences table kind = [] ↔
      (kind = .update ∨ kind = .delete → row.CoversKey table) ∧
      (kind = .update → ∃ field ∈ row.fields, field ∉ table.primaryKey) ∧
      (kind = .delete → ∀ field ∈ row.fields, field ∈ table.primaryKey) := by
  unfold keyOffences
  cases kind with
  | insert | upsert | addUpsert => simp [RowWrite.insertsValues]
  | update | delete => simp [RowWrite.insertsValues, otherEntries_eq_nil_iff]

theorem Row.writable_iff {row : Row} {table : Table} {kind : RowWrite} :
    row.Writable table kind ↔ row.offences table kind = [] := by
  rw [offences, List.append_eq_nil_iff, List.append_eq_nil_iff, keyOffences_eq_nil_iff,
    emptyOffences_eq_nil_iff, Table.flatMap_fieldOffences_eq_nil_iff]
  exact ⟨fun sound => ⟨sound.filled, sound.declared, sound.keyed, sound.more, sound.only⟩,
    fun ⟨filled, declared, keyed, more, only⟩ => ⟨filled, declared, keyed, more, only⟩⟩

theorem MutationNode.wellFormed_iff {node : MutationNode} : node.WellFormed ↔ node.offences = [] := by
  obtain ⟨table, op⟩ := node
  unfold WellFormed offences
  cases op with
  | rows kind rows =>
    rw [List.flatMap_eq_nil_iff]
    exact forall₂_congr fun row _ => Row.writable_iff
  | setUpdate assignments filter =>
    simp only [List.append_eq_nil_iff, Row.emptyOffences_eq_nil_iff,
      Table.flatMap_fieldOffences_eq_nil_iff, (filter.compile_judged table).ok_iff]
  | setDelete filter => exact (filter.compile_judged table).ok_iff
  | setInsert columns source =>
    simp only [List.append_eq_nil_iff, Table.flatMap_fieldOffences_eq_nil_iff,
      source.build_judged.ok_iff]

/-! ### Compiling -/

section

variable {table : Table}

/-- The key that a row is checked for is the one that it covers. -/
theorem KeyedRow.hasKey_iff (distinct : table.columnNames.Nodup) {row : Row} :
    (ofRow table row).hasKey table.primaryKey ↔ row.CoversKey table := by
  rw [hasKey, ofRow_key distinct, Bool.and_eq_true, List.all_eq_true, Row.CoversKey]
  refine and_congr (by simp) (forall₂_congr fun field key => ?_)
  rw [List.any_eq_true]
  constructor
  · rintro ⟨entry, inside, same⟩
    exact List.mem_map.2 ⟨entry, (List.mem_filter.1 inside).1, beq_iff_eq.1 same⟩
  · intro named
    obtain ⟨entry, inside, rfl⟩ := List.mem_map.1 named
    exact ⟨entry, List.mem_filter.2 ⟨inside, decide_eq_true key⟩, beq_self_eq_true _⟩

namespace MutationNode

theorem requireKey_judged (distinct : table.columnNames.Nodup) (kind : RowWrite) (row : Row) :
    Judged (requireKey table kind (.ofRow table row)) (row.keyOffences table kind) := by
  unfold requireKey Row.keyOffences
  rw [KeyedRow.ofRow_others distinct]
  by_cases inserts : kind.insertsValues
  · rw [if_pos inserts, if_pos inserts]
    exact .passed () rfl
  rw [if_neg inserts, if_neg inserts]
  by_cases covers : row.CoversKey table
  · have complete := (KeyedRow.hasKey_iff distinct).2 covers
    rw [if_neg (by simp [complete]), if_pos covers, List.nil_append]
    refine .guard rfl fun _ => ?_
    by_cases beyond : kind = .delete ∧ row.otherEntries table ≠ []
    · rw [if_pos beyond, if_pos beyond]
      exact .refused _ _ rfl
    · rw [if_neg beyond, if_neg beyond]
      exact .passed () rfl
  · have lacking := mt (KeyedRow.hasKey_iff distinct).1 covers
    rw [if_pos (by simp [lacking]), if_neg covers]
    exact .refused _ _ rfl

/-- A row is refused for the first of its offences. -/
theorem rowWrite_judged (distinct : table.columnNames.Nodup) (kind : RowWrite) (row : Row) :
    Judged (rowWrite table kind row) (row.offences table kind) := by
  unfold rowWrite Row.offences
  refine .guard rfl fun _ => ?_
  refine (Judged.forM row.fields table.require_judged).bind fun _ _ => ?_
  exact (requireKey_judged distinct kind row).map _

/-- A node is refused for the first offence there. -/
theorem writes_judged {node : MutationNode} (distinct : node.table.columnNames.Nodup) :
    Judged node.writes node.offences := by
  obtain ⟨table, op⟩ := node
  cases op with
  | rows kind rows => exact .mapM rows fun row _ => rowWrite_judged distinct kind row
  | setUpdate assignments filter =>
    refine .guard rfl fun _ => ?_
    refine (Judged.forM assignments.fields table.require_judged).bind fun _ _ => ?_
    exact (filter.compile_judged table).map _
  | setDelete filter => exact (filter.compile_judged table).map _
  | setInsert columns source =>
    refine (Judged.forM columns table.require_judged).bind fun _ _ => ?_
    exact source.compile_judged.map _

end MutationNode

end

namespace Mutation

/-- **The writes of a mutation are refused for its first offence.** -/
theorem visitedWrites_judged {mutation : Mutation}
    (sound : ∀ node ∈ mutation.preorder, node.table.validate = .ok ()) :
    Judged mutation.visitedWrites mutation.offences :=
  .mapM mutation.preorder fun node inside =>
    (MutationNode.writes_judged (Table.nodup_columnNames (sound node inside))).map _

/-- **Exactly the well-formed mutations compile**, with batching and without. Over sound tables a mutation
compiles if nothing is wrong at any node, and only then. Otherwise it is refused for the first offence in
pre-order, the rows of a node in their order. -/
theorem compile_wellFormed (mutation : Mutation) (batched : Bool)
    (sound : ∀ node ∈ mutation.preorder, node.table.validate = .ok ()) :
    ((∃ plan, mutation.compile batched = .ok plan) ↔ ∀ node ∈ mutation.preorder, node.WellFormed) ∧
    ∀ cause, mutation.compile batched = .error cause ↔ mutation.offences.head? = some cause := by
  have judged : Judged (mutation.compile batched) mutation.offences :=
    (visitedWrites_judged sound).map _
  refine ⟨?_, judged.error_iff⟩
  rw [judged.ok_iff, offences, List.flatMap_eq_nil_iff]
  exact forall₂_congr fun node _ => MutationNode.wellFormed_iff.symm

/-- The second row to delete has not the whole key, which comes before what is wrong below and beside. -/
theorem compile_wellFormed_nested :
    let songs : Table := ⟨"songs", [{ name := "album", type := .int, primaryKey := true },
      { name := "track", type := .int, primaryKey := true }, { name := "title", type := .varchar }]⟩
    let whole : Row := { entries := [("track", .int 2), ("album", .int 1)] }
    let part : Row := { entries := [("album", .int 1)] }
    let named : Row := { entries := [("title", .null), ("track", .int 2), ("album", .int 1)] }
    let accepted : Mutation := .node ⟨songs, .rows .update [named]⟩
      [("gone", Mutation.ofTable songs (.rows .delete [whole])),
        ("copied", Mutation.ofTable songs (.setInsert ["track"]
          ((Query.ofTable songs).filter (Filter.empty.isNull "title"))))]
    let refused : Mutation := .node ⟨songs, .rows .upsert [part]⟩
      [("gone", .node ⟨songs, .rows .delete [whole, part]⟩
          [("none", Mutation.ofTable songs (.setUpdate .empty []))]),
        ("more", Mutation.ofTable songs (.rows .insert [{ entries := [("genre", .null)] }]))]
    (∀ node ∈ accepted.preorder ++ refused.preorder, node.table.validate = .ok ()) ∧
    (∀ node ∈ accepted.preorder, node.WellFormed) ∧
    refused.offences = [.incompleteKey "songs", .descriptor (.nothingToSet "songs"),
      .unknownField "songs" "genre"] ∧
    refused.compile true = .error (.incompleteKey "songs") := by
  intro songs whole part named accepted refused
  have sound : ∀ node ∈ accepted.preorder ++ refused.preorder, node.table.validate = .ok () := by
    decide +kernel
  obtain ⟨first, second⟩ := List.forall_mem_append.1 sound
  have wrong : refused.offences = [.incompleteKey "songs", .descriptor (.nothingToSet "songs"),
      .unknownField "songs" "genre"] := rfl
  exact ⟨sound, (compile_wellFormed accepted false first).1.1 ⟨_, rfl⟩, wrong,
    ((compile_wellFormed refused true second).2 _).2 (by rw [wrong]; rfl)⟩

end Mutation

end SqlCraft
