/-
**Tables that are not recorded are dropped, created and linked.**

A table that is not recorded has no keys that would have to be dropped before it, and no key of a recorded
table is known to need it. So a group of such tables has two passes: each table is dropped, if it is there,
and created; then the keys of all are added. What one group records is of no matter to the next as long as
their tables have other names, so this is what a run makes if nothing fails in it.

* `Performed.statements`, `Rebuilt.statements` — the statements of a phase, whatever is refused;
* `freshSteps` — the steps of a group of unrecorded tables;
* `GroupTrace.fresh`, `RunTrace.fresh` — the statements of a group and of a run;
* `Logged.clean` — nothing fails without a database.
-/

import SqlCraft.Proofs.Migration.Clean
import SqlCraft.Proofs.Migration.Grants

namespace SqlCraft.Migration

/-! ### The statements of a phase -/

theorem Performed.statements {α : Type} {step : α → Step} {items kept : List α}
    {events : List MigrationEvent} (performed : Performed step items events kept) :
    MigrationReport.statements ⟨events⟩ = items.map fun item => (step item).sql := by
  induction performed with
  | nil => rfl
  | granted item _ ih => exact congrArg ((step item).sql :: ·) ih
  | refused item cause _ ih => exact congrArg ((step item).sql :: ·) ih

theorem Rebuilt.statements {snapshot : Snapshot} {tables created : List Table}
    {events : List MigrationEvent} (rebuilt : Rebuilt snapshot tables events created) :
    MigrationReport.statements ⟨events⟩ = (rebuildSteps snapshot tables).map Step.sql := by
  induction rebuilt with
  | nil => rfl
  | granted table dropped _ ih =>
    exact congrArg (fun later => (dropStep snapshot table).sql :: (createStep table).sql :: later) ih
  | refused table dropped cause _ ih =>
    exact congrArg (fun later => (dropStep snapshot table).sql :: (createStep table).sql :: later) ih

theorem statements_keptTables (tables : List Table) :
    MigrationReport.statements ⟨tables.map fun table => .unchanged table.name⟩ = [] := by
  simp [MigrationReport.statements]

theorem statements_created (tables : List Table) :
    MigrationReport.statements ⟨tables.map fun table => .created table.name⟩ = [] := by
  simp [MigrationReport.statements]

/-! ### Unrecorded tables -/

/-- The step that drops a table if it is there. -/
def clearStep (table : Table) : Step := ⟨table.name, .dropTable, table.dropIfExistsSql⟩

/-- The steps of a group of unrecorded tables: each is dropped and created, then all get their keys. -/
def freshSteps (group : TableGroup) : List Step :=
  group.flatMap (fun table => [clearStep table, createStep table]) ++ linkSteps group

section

variable {snapshot : Snapshot} {group : TableGroup}
  (unrecorded : ∀ table ∈ group, snapshot.get? table.name = none)
include unrecorded

theorem ownKeySteps_of_unrecorded : ownKeySteps snapshot group = [] :=
  List.flatMap_eq_nil_iff.2 fun table inside => by rw [unrecorded table inside]

theorem rebuildSteps_of_unrecorded : rebuildSteps snapshot group =
    group.flatMap fun table => [clearStep table, createStep table] :=
  List.flatMap_congr fun table inside => by rw [dropStep, unrecorded table inside, clearStep]

/-- No recorded table holds a key on a table that is not recorded. -/
theorem inboundKeys_of_unrecorded : inboundKeys snapshot group = [] := by
  refine List.flatMap_eq_nil_iff.2 fun holder _ => List.map_eq_nil_iff.2 ?_
  refine List.filter_eq_nil_iff.2 fun entry _ both => ?_
  obtain ⟨named, held⟩ := (Bool.and_eq_true _ _).mp both
  obtain ⟨table, inside, same⟩ := List.mem_map.1 (List.contains_iff_mem.1 named)
  rw [Snapshot.contains, ← same, unrecorded table inside] at held
  cases held

/-- **The statements of a group of unrecorded tables in which nothing failed.** -/
theorem GroupTrace.fresh {events : List MigrationEvent} {created : List Table}
    (trace : GroupTrace snapshot group events created)
    (clean : MigrationReport.failures ⟨events⟩ = []) :
    MigrationReport.statements ⟨events⟩ = (freshSteps group).map Step.sql := by
  have all : created = group :=
    (trace.created_all clean).trans (changedTables_of_unrecorded unrecorded)
  cases trace with
  | phases unlinks detaches rebuilds links attaches =>
    have none := detaches.kept_subset
    rw [changedTables_of_unrecorded unrecorded] at unlinks rebuilds none
    rw [inboundKeys_of_unrecorded unrecorded, List.sublist_nil] at none
    simp only [statements_append, statements_keptTables, statements_created, unlinks.statements,
      detaches.statements, rebuilds.statements, links.statements, attaches.statements, none, all,
      changedTables_of_unrecorded unrecorded, ownKeySteps_of_unrecorded unrecorded,
      inboundKeys_of_unrecorded unrecorded, rebuildSteps_of_unrecorded unrecorded, freshSteps,
      List.map_append, List.map_nil, List.nil_append, List.append_nil, id]

end

/-- **The statements of a run over unrecorded tables of different names in which nothing failed.** -/
theorem RunTrace.fresh {snapshot final : Snapshot} {groups : List TableGroup}
    {events : List MigrationEvent} (trace : RunTrace snapshot groups events final)
    (clean : MigrationReport.failures ⟨events⟩ = [])
    (distinct : (groups.flatten.map Table.name).Nodup)
    (unrecorded : ∀ table ∈ groups.flatten, snapshot.get? table.name = none) :
    MigrationReport.statements ⟨events⟩ = (groups.flatMap freshSteps).map Step.sql := by
  induction trace with
  | done => rfl
  | @group snapshot final group groups first later created here rest ih =>
    rw [failures_append, List.append_eq_nil_iff] at clean
    rw [List.flatten_cons] at distinct unrecorded
    have start := here.fresh (fun table inside => unrecorded table (List.mem_append_left _ inside)) clean.1
    have behind := ih clean.2 (names_apart distinct).2.1 (here.unrecorded distinct unrecorded)
    rw [statements_append, start, behind, List.flatMap_cons, List.map_append]

/-- Without a database nothing fails. -/
theorem Logged.clean {before after : History} {events : List MigrationEvent}
    (logged : Logged none before events after) : MigrationReport.failures ⟨events⟩ = [] := by
  induction logged with
  | done => rfl
  | unchanged table _ ih => exact ih
  | rebuilding table _ ih => exact ih
  | created table _ ih => exact ih
  | attempted step _ ih => exact ih

/-- **A dry run over sound tables of different names, none of them recorded, reports exactly these
statements.** -/
theorem migrate_fresh {groups : List TableGroup} {store : Store} (history : History)
    (valid : ∀ table ∈ groups.flatten, table.validate = .ok ())
    (distinct : (groups.flatten.map Table.name).Nodup)
    (unrecorded : ∀ table ∈ groups.flatten, store.load.get? table.name = none) :
    ∃ report, (migrate none groups store history).1 = (.ok report, store) ∧ report.failures = [] ∧
      report.statements = (groups.flatMap freshSteps).map Step.sql := by
  obtain ⟨events, final, after, ran, trace, logged⟩ := runGroups_trace none groups store.load history
  refine ⟨⟨events⟩, ?_, logged.clean, trace.fresh logged.clean distinct unrecorded⟩
  unfold migrate
  rw [validateAll_ok valid]
  simp only [Session.bind_apply, ran, Option.isNone_none, Bool.true_or, if_true, Session.pure_apply]

end SqlCraft.Migration
