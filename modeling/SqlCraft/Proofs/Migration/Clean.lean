/-
**Clean migrations: the database holds what is declared.**

A migration is clean if nothing failed in it. Behind clean migrations of an empty database its tables
and its constraints are the declared ones, and every declared table is recorded. Nothing has to be
assumed of the names of constraints: where two of a table had one name, the second could not be added.

* `Migrates` — a clean migration, from one database and snapshot to the next;
* `KeyOf` — the constraints that tables declare;
* `Performed.adds_distinct`, `RunTrace.named` — keys that could all be added have different names;
* `Settled`, `Migrates.settled` — what clean migrations lead to, and keep.
-/

import Mathlib.Logic.Relation
import SqlCraft.Proofs.Migration.Agreement
import SqlCraft.Proofs.Migration.Idempotence

namespace SqlCraft.Migration

/-- A migration of the groups, in which nothing failed, leads from one database and its snapshot to the
next, whatever the database would have refused besides. -/
def Migrates (groups : List TableGroup) (before after : Catalog × Snapshot) : Prop :=
  ∃ refusals report calls,
    migrate (some (before.1.database refusals)) groups (.memory before.2) [] =
      ((.ok report, .memory after.2), calls) ∧
    report.failures = [] ∧ after.1 = before.1.after refusals calls

/-- One of the tables declares the constraint. -/
def KeyOf (tables : List Table) (constraint : Constraint) : Prop :=
  ∃ table ∈ tables, ∃ held ∈ table.heldKeys, held.constraint = constraint

/-! ### Runs in which nothing failed -/

section Clean

variable {plain : Prop} {before after : Catalog} {events : List MigrationEvent}

theorem failures_eq_nil_iff : MigrationReport.failures ⟨events⟩ = [] ↔ failedSteps events = [] := by
  rw [failedSteps, List.map_eq_nil_iff]

/-- In a run in which nothing failed, commands are only refused by the rules. -/
theorem Follows.of_clean (follows : Follows plain before events after)
    (clean : failedSteps events = []) : Follows True before events after := by
  induction follows with
  | done => exact .done _
  | unchanged table _ ih => exact .unchanged table (ih clean)
  | rebuilding table _ ih => exact .rebuilding table (ih clean)
  | created table _ ih => exact .created table (ih clean)
  | granted read allowed _ ih => exact .granted read allowed (ih clean)
  | refused _ _ _ => cases clean

/-- Keys that could all be added differ from each other and from those that were there. -/
theorem Performed.adds_distinct {items kept : List HeldKey}
    (performed : Performed HeldKey.createStep items events kept)
    (follows : Follows plain before events after) (clean : failedSteps events = []) :
    (items.map fun held => held.constraint.key).Nodup ∧
      ∀ held ∈ items, ∀ constraint ∈ before.constraints, constraint.key ≠ held.constraint.key := by
  induction performed generalizing before with
  | nil => exact ⟨.nil, List.forall_mem_nil _⟩
  | granted item _ ih =>
    cases follows with
    | granted read allowed later =>
      obtain rfl := Option.some.inj (item.read_createStep.symm.trans read)
      obtain ⟨distinct, fresh⟩ := ih later clean
      constructor
      · rw [List.map_cons, List.nodup_cons]
        refine ⟨fun again => ?_, distinct⟩
        obtain ⟨held, inside, same⟩ := List.mem_map.1 again
        exact fresh held inside item.constraint (Finset.mem_insert_self _ _) same.symm
      · refine List.forall_mem_cons.2 ⟨allowed.2.2, fun held inside constraint there => ?_⟩
        exact fresh held inside constraint (Finset.mem_insert_of_mem there)
  | refused _ _ _ _ => cases clean

/-- The keys of tables that were created in a group in which nothing failed have different names. -/
theorem Passed.named {snapshot : Snapshot} {group : TableGroup} {created : List Table}
    {failed : List Step} (passed : Passed plain snapshot group created before failed after)
    (clean : failed = []) : ∀ table ∈ created, table.constraintNames.Nodup := by
  cases passed with
  | phases _ _ _ _ _ _ adds added =>
    rw [List.append_eq_nil_iff] at clean
    intro table made
    obtain ⟨distinct, -⟩ := adds.adds_distinct added clean.2
    have own : (table.heldKeys.map fun held => held.constraint.key).Nodup := by
      refine distinct.sublist (List.Sublist.map _ ?_)
      exact (List.sublist_flatten_of_mem (List.mem_map_of_mem made)).trans (List.sublist_append_left _ _)
    rw [map_key_heldKeys] at own
    exact own.of_map _

end Clean

/-- A table that is not recorded is changed. -/
theorem isChanged_of_unrecorded {snapshot : Snapshot} {table : Table}
    (unrecorded : snapshot.get? table.name = none) : snapshot.isChanged table := by
  rw [Snapshot.isChanged, unrecorded]
  rfl

/-- All tables of a group are changed if none of them is recorded. -/
theorem changedTables_of_unrecorded {snapshot : Snapshot} {group : TableGroup}
    (unrecorded : ∀ table ∈ group, snapshot.get? table.name = none) :
    changedTables snapshot group = group :=
  List.filter_eq_self.2 fun table inside => isChanged_of_unrecorded (unrecorded table inside)

/-- What is created in a group is not recorded for the tables of later groups. -/
theorem GroupTrace.unrecorded {snapshot : Snapshot} {group : TableGroup} {created others : List Table}
    {events : List MigrationEvent} (trace : GroupTrace snapshot group events created)
    (distinct : ((group ++ others).map Table.name).Nodup)
    (unrecorded : ∀ table ∈ group ++ others, snapshot.get? table.name = none) :
    ∀ table ∈ others, (record snapshot created).get? table.name = none := by
  obtain ⟨-, -, differ⟩ := names_apart distinct
  intro table behind
  rw [get?_record_of_not_mem, unrecorded table (List.mem_append_right _ behind)]
  intro named
  obtain ⟨other, made, same⟩ := List.mem_map.1 named
  exact differ other (changedTables_subset snapshot group (trace.created_subset.subset made)) table
    behind same

/-- **If tables that were not recorded are all created with their keys, no table has two constraints of
one name.** -/
theorem RunTrace.named {plain : Prop} {snapshot final : Snapshot} {groups : List TableGroup}
    {events : List MigrationEvent} {before after : Catalog}
    (trace : RunTrace snapshot groups events final) (follows : Follows plain before events after)
    (clean : failedSteps events = []) (sound : snapshot.Sound)
    (distinct : (groups.flatten.map Table.name).Nodup)
    (unrecorded : ∀ table ∈ groups.flatten, snapshot.get? table.name = none) :
    ∀ table ∈ groups.flatten, table.constraintNames.Nodup := by
  induction trace generalizing before with
  | done => exact List.forall_mem_nil _
  | @group snapshot final group groups first later created here rest ih =>
    obtain ⟨middle, followsFirst, followsLater⟩ := follows.append_inv
    rw [failedSteps_append, List.append_eq_nil_iff] at clean
    rw [List.flatten_cons] at distinct unrecorded ⊢
    have all : created = group := by
      rw [here.created_all (failures_eq_nil_iff.2 clean.1)]
      exact changedTables_of_unrecorded fun table inside =>
        unrecorded table (List.mem_append_left _ inside)
    have named := (here.passed sound followsFirst).named clean.1
    have later := ih followsLater clean.2 (record_sound sound named) (names_apart distinct).2.1
      (here.unrecorded distinct unrecorded)
    exact List.forall_mem_append.2 ⟨all ▸ named, later⟩

/-! ### Clean migrations -/

theorem empty_sound : Snapshot.empty.Sound where
  keyed _ _ found := by cases found
  named _ _ found := by cases found

theorem empty_agrees : Catalog.Agrees ⟨∅, ∅⟩ Snapshot.empty where
  tables name := iff_of_false (Finset.notMem_empty _) Bool.false_ne_true
  constraints constraint := by
    refine iff_of_false (Finset.notMem_empty _) ?_
    rintro ⟨table, found, -⟩
    cases found
  closed constraint inside := absurd inside (Finset.notMem_empty _)

/-- The database agrees with the snapshot, which records exactly the declared tables. -/
structure Settled (groups : List TableGroup) (catalog : Catalog) (snapshot : Snapshot) : Prop where
  sound : snapshot.Sound
  agrees : catalog.Agrees snapshot
  named : ∀ table ∈ groups.flatten, table.constraintNames.Nodup
  recorded : ∀ table ∈ groups.flatten, snapshot.get? table.name = some table
  others : ∀ name, name ∉ groups.flatten.map Table.name → snapshot.get? name = none

namespace Settled

variable {groups : List TableGroup} {catalog : Catalog} {snapshot : Snapshot}
  (settled : Settled groups catalog snapshot)
include settled

theorem contains_iff {name : String} :
    snapshot.contains name ↔ name ∈ groups.flatten.map Table.name := by
  constructor
  · intro held
    by_contra other
    rw [Snapshot.contains, settled.others name other] at held
    cases held
  · intro declared
    obtain ⟨table, inside, rfl⟩ := List.mem_map.1 declared
    rw [Snapshot.contains, settled.recorded table inside]
    rfl

/-- The recorded constraints are those of the declared tables. -/
theorem records_iff {constraint : Constraint} :
    snapshot.Records constraint ↔ KeyOf groups.flatten constraint := by
  constructor
  · rintro ⟨table, found, held, mine, same⟩
    have declared := settled.contains_iff.1 (Option.isSome_of_eq_some found)
    obtain ⟨other, inside, named⟩ := List.mem_map.1 declared
    rw [← named, settled.recorded other inside] at found
    cases found
    exact ⟨table, inside, held, mine, same⟩
  · rintro ⟨table, inside, held, mine, rfl⟩
    exact records_of_mem settled.sound (settled.recorded table inside) mine

/-- Declared keys refer to declared tables. -/
theorem closed {table : Table} (inside : table ∈ groups.flatten) {held : HeldKey}
    (mine : held ∈ table.heldKeys) : held.key.table ∈ groups.flatten.map Table.name := by
  have there := (settled.agrees.constraints held.constraint).2
    (records_of_mem settled.sound (settled.recorded table inside) mine)
  exact settled.contains_iff.1 ((settled.agrees.tables _).1 (settled.agrees.closed _ there).2)

end Settled

theorem soundGroup_of_flatten {groups : List TableGroup}
    (valid : ∀ table ∈ groups.flatten, table.validate = .ok ())
    (distinct : (groups.flatten.map Table.name).Nodup)
    (named : ∀ table ∈ groups.flatten, table.constraintNames.Nodup) :
    ∀ group ∈ groups, SoundGroup group := by
  intro group among
  have inside : group.Sublist groups.flatten := List.sublist_flatten_of_mem among
  exact ⟨fun table within => valid table (inside.subset within), distinct.sublist (inside.map _),
    fun table within => named table (inside.subset within)⟩

section Settling

variable {groups : List TableGroup} (valid : ∀ table ∈ groups.flatten, table.validate = .ok ())
  (distinct : (groups.flatten.map Table.name).Nodup) (available : Available (fun _ => False) groups)
include valid distinct available

/-- A run in which nothing failed settles the declared tables, where what was recorded before is what
is declared. -/
theorem settled_of_clean {snapshot final : Snapshot} {before after : Catalog}
    {events : List MigrationEvent} (trace : RunTrace snapshot groups events final)
    (follows : Follows True before events after) (clean : failedSteps events = [])
    (sound : snapshot.Sound) (agrees : before.Agrees snapshot)
    (named : ∀ table ∈ groups.flatten, table.constraintNames.Nodup)
    (recorded : ∀ table ∈ groups.flatten, ∀ held ∈ snapshot.get? table.name, held = table)
    (others : ∀ name, name ∉ groups.flatten.map Table.name → snapshot.get? name = none) :
    Settled groups after final := by
  obtain ⟨-, soundly, agreesAgain⟩ := trace.agrees trivial follows sound agrees
    (soundGroup_of_flatten valid distinct named) available fun _ known => known.elim
  refine ⟨soundly, agreesAgain, named, fun table declared => ?_, fun name other => ?_⟩
  · have granted : table.name ∉ refusedTables events := by
      rw [refusedTables, clean]
      exact List.not_mem_nil
    rw [trace.get?_declared distinct declared]
    by_cases changed : snapshot.isChanged table
    · rw [if_pos ⟨changed, granted⟩]
    · rw [if_neg fun both => changed both.1]
      obtain ⟨held, found, -⟩ := Snapshot.isChanged_eq_false_iff.1 (Bool.eq_false_iff.2 changed)
      rw [found, recorded table declared held found]
  · rw [trace.get?_undeclared other, others name other]

/-- **A clean migration settles the declared tables**, of an empty database or of a settled one. -/
theorem Migrates.settled {before after : Catalog × Snapshot} (migrates : Migrates groups before after)
    (start : before = (⟨∅, ∅⟩, .empty) ∨ Settled groups before.1 before.2) :
    Settled groups after.1 after.2 := by
  obtain ⟨refusals, report, calls, ran, clean, reached⟩ := migrates
  obtain ⟨events, final, made, runs, trace, logged⟩ :=
    migrate_memory (before.1.database refusals) before.2 [] valid
  cases ran.symm.trans runs
  have clean := failures_eq_nil_iff.1 clean
  have follows := logged.follows.of_clean clean
  rw [← reached] at follows
  rcases start with rfl | settled
  · have named := trace.named follows clean empty_sound distinct fun _ _ => rfl
    exact settled_of_clean valid distinct available trace follows clean empty_sound empty_agrees named
      (fun _ _ _ found => by cases found) fun _ _ => rfl
  · exact settled_of_clean valid distinct available trace follows clean settled.sound settled.agrees
      settled.named (fun table declared held found => by
        rw [settled.recorded table declared] at found
        exact (Option.some.inj found).symm) settled.others

/-- **Behind one or more clean migrations of an empty database the declared tables are settled.** -/
theorem settled_of_reached {state : Catalog × Snapshot}
    (reached : Relation.TransGen (Migrates groups) (⟨∅, ∅⟩, .empty) state) :
    Settled groups state.1 state.2 := by
  induction reached with
  | single migrates => exact migrates.settled valid distinct available (.inl rfl)
  | tail _ migrates ih => exact migrates.settled valid distinct available (.inr ih)

end Settling

end SqlCraft.Migration
