/-
**Convergence: what is left to do after a migration.**

Whatever a database refuses, the tables that are still changed behind a run are those that were
changed before it and whose `CREATE TABLE` was refused. Refusals of other statements leave no trace
in the snapshot.

* `RunTrace.get?_declared` — what the snapshot holds for a declared table behind a run;
* `RunTrace.created_eq`, `RunTrace.unchanged_eq` — which tables a run reports, in order;
* `migrate_idle` — with nothing to do, a migration makes no call;
* `migrate_converges` — the tables that are left, created and unchanged, for every database.
-/

import Mathlib.Data.List.Nodup
import SqlCraft.Proofs.Migration.Recorded
import SqlCraft.Proofs.Migration.Refusals
import SqlCraft.Proofs.Table.SelfEqual

namespace SqlCraft.Migration

/-! ### Groups -/

/-- What is held for a table of a group behind it: the table itself if it was changed and its creation
was not refused, and otherwise what was held before. -/
theorem GroupTrace.get?_declared {snapshot : Snapshot} {group : TableGroup} {created : List Table}
    {events : List MigrationEvent} (trace : GroupTrace snapshot group events created)
    (distinct : (group.map Table.name).Nodup) {table : Table} (declared : table ∈ group) :
    (record snapshot created).get? table.name =
      if snapshot.isChanged table ∧ table.name ∉ refusedTables events then some table
      else snapshot.get? table.name := by
  have made := (trace.created_eq distinct).2
  have below : created.Sublist group := trace.created_subset.trans List.filter_sublist
  have chosen : table ∈ created ↔
      snapshot.isChanged table ∧ table.name ∉ refusedTables events := by
    rw [made, List.mem_filter, changedTables, List.mem_filter, decide_eq_true_eq]
    exact ⟨fun inside => ⟨inside.1.2, inside.2⟩, fun wanted => ⟨⟨declared, wanted.1⟩, wanted.2⟩⟩
  by_cases inside : table ∈ created
  · rw [if_pos (chosen.1 inside)]
    exact get?_record_of_mem snapshot (distinct.sublist (below.map _)) inside
  · rw [if_neg (mt chosen.2 inside)]
    refine get?_record_of_not_mem snapshot fun named => ?_
    obtain ⟨other, within, same⟩ := List.mem_map.1 named
    have equal := List.inj_on_of_nodup_map distinct (below.subset within) declared same
    exact inside (equal ▸ within)

/-! ### Runs -/

/-- If all tables of two lists have different names, those of each have, and no name is in both. -/
theorem names_apart {first second : List Table}
    (distinct : ((first ++ second).map Table.name).Nodup) :
    (first.map Table.name).Nodup ∧ (second.map Table.name).Nodup ∧
      ∀ table ∈ first, ∀ other ∈ second, table.name ≠ other.name := by
  rw [List.map_append, List.nodup_append] at distinct
  obtain ⟨left, right, differ⟩ := distinct
  refine ⟨left, right, fun table inside other behind => ?_⟩
  exact differ _ (List.mem_map_of_mem inside) _ (List.mem_map_of_mem behind)

theorem RunTrace.creationsAmong {snapshot final : Snapshot} {groups : List TableGroup}
    {events : List MigrationEvent} (trace : RunTrace snapshot groups events final)
    (distinct : (groups.flatten.map Table.name).Nodup) : CreationsAmong groups.flatten events := by
  induction trace with
  | done => exact .of_nil rfl []
  | @group snapshot final group groups first later created here rest ih =>
    rw [List.flatten_cons] at distinct
    obtain ⟨inGroup, inRest, -⟩ := names_apart distinct
    have start := (here.created_eq inGroup).1
    have among : changedTables snapshot group ⊆ (group :: groups).flatten := fun table inside =>
      List.mem_append_left _ (changedTables_subset snapshot group inside)
    have behind : groups.flatten ⊆ (group :: groups).flatten := fun table inside =>
      List.mem_append_right _ inside
    exact (start.mono among).append ((ih inRest).mono behind)

/-- A group and those behind it do not meet: what is held and what is refused for a table of one
side is settled on that side. -/
theorem GroupTrace.apart {snapshot : Snapshot} {group : TableGroup} {created others : List Table}
    {first later : List MigrationEvent} (here : GroupTrace snapshot group first created)
    (among : CreationsAmong others later) (distinct : ((group ++ others).map Table.name).Nodup) :
    (∀ table ∈ others,
      (record snapshot created).get? table.name = snapshot.get? table.name) ∧
    (∀ table ∈ group,
      (table.name ∈ refusedTables (first ++ later) ↔ table.name ∈ refusedTables first)) ∧
    (∀ table ∈ others,
      (table.name ∈ refusedTables (first ++ later) ↔ table.name ∈ refusedTables later)) := by
  obtain ⟨inGroup, -, differ⟩ := names_apart distinct
  have declared : created ⊆ group := fun table inside =>
    changedTables_subset snapshot group (here.created_subset.subset inside)
  refine ⟨?_, ?_, ?_⟩
  · intro table behind
    refine get?_record_of_not_mem snapshot fun inside => ?_
    obtain ⟨other, made, same⟩ := List.mem_map.1 inside
    exact differ other (declared made) table behind same
  · intro table inside
    rw [refusedTables_append, List.mem_append, or_iff_left]
    intro refused
    obtain ⟨other, behind, same, -⟩ := among.exists_of_mem refused
    exact differ table inside other behind same.symm
  · intro table behind
    rw [refusedTables_append, List.mem_append, or_iff_right]
    intro refused
    obtain ⟨other, changed, same, -⟩ := (here.created_eq inGroup).1.exists_of_mem refused
    exact differ other (changedTables_subset snapshot group changed) table behind same

theorem RunTrace.get?_undeclared {snapshot final : Snapshot} {groups : List TableGroup}
    {events : List MigrationEvent} {name : String} (trace : RunTrace snapshot groups events final)
    (other : name ∉ groups.flatten.map Table.name) : final.get? name = snapshot.get? name := by
  induction trace with
  | done => rfl
  | @group snapshot final group groups first later created here rest ih =>
    rw [List.flatten_cons, List.map_append, List.mem_append, not_or] at other
    have declared : created.map Table.name ⊆ group.map Table.name :=
      ((here.created_subset.trans List.filter_sublist).map Table.name).subset
    rw [ih other.2]
    exact get?_record_of_not_mem snapshot fun inside => other.1 (declared inside)

/-- A run records only what it reports as created. -/
theorem RunTrace.get?_uncreated {snapshot final : Snapshot} {groups : List TableGroup}
    {events : List MigrationEvent} {name : String} (trace : RunTrace snapshot groups events final)
    (other : name ∉ MigrationReport.created ⟨events⟩) : final.get? name = snapshot.get? name := by
  induction trace with
  | done => rfl
  | group here rest ih =>
    rw [created_append, here.views.1, List.mem_append, not_or] at other
    rw [ih other.2]
    exact get?_record_of_not_mem _ other.1

/-- **What the snapshot holds for a declared table behind a run:** the table itself if it was changed
and its creation was not refused, and otherwise what it held before. -/
theorem RunTrace.get?_declared {snapshot final : Snapshot} {groups : List TableGroup}
    {events : List MigrationEvent} (trace : RunTrace snapshot groups events final)
    (distinct : (groups.flatten.map Table.name).Nodup) {table : Table}
    (declared : table ∈ groups.flatten) :
    final.get? table.name =
      if snapshot.isChanged table ∧ table.name ∉ refusedTables events then some table
      else snapshot.get? table.name := by
  induction trace with
  | done => cases declared
  | @group snapshot final group groups first later created here rest ih =>
    rw [List.flatten_cons] at distinct declared
    obtain ⟨inGroup, behind, differ⟩ := names_apart distinct
    obtain ⟨held, firstRefused, laterRefused⟩ := here.apart (rest.creationsAmong behind) distinct
    rcases List.mem_append.1 declared with inside | later
    · have fresh : table.name ∉ groups.flatten.map Table.name := by
        intro named
        obtain ⟨other, later, same⟩ := List.mem_map.1 named
        exact differ table inside other later same.symm
      rw [rest.get?_undeclared fresh, here.get?_declared inGroup inside]
      simp only [firstRefused table inside]
    · rw [ih behind later, Snapshot.isChanged_congr (held table later), held table later]
      simp only [laterRefused table later]

/-- A run creates the changed tables whose creation is not refused, in order. -/
theorem RunTrace.created_eq {snapshot final : Snapshot} {groups : List TableGroup}
    {events : List MigrationEvent} (trace : RunTrace snapshot groups events final)
    (distinct : (groups.flatten.map Table.name).Nodup) :
    MigrationReport.created ⟨events⟩ =
      ((groups.flatten.filter snapshot.isChanged).filter fun table =>
        table.name ∉ refusedTables events).map Table.name := by
  induction trace with
  | done => rfl
  | @group snapshot final group groups first later created here rest ih =>
    rw [List.flatten_cons] at distinct
    obtain ⟨inGroup, behind, -⟩ := names_apart distinct
    obtain ⟨held, firstRefused, laterRefused⟩ := here.apart (rest.creationsAmong behind) distinct
    rw [created_append, here.views.1, ih behind, List.flatten_cons, List.filter_append,
      List.filter_append, List.map_append]
    congr 2
    · rw [(here.created_eq inGroup).2]
      refine List.filter_congr fun table inside => ?_
      have same := firstRefused table (changedTables_subset snapshot group inside)
      exact decide_eq_decide.2 (not_congr same.symm)
    · have same : groups.flatten.filter (record snapshot created).isChanged =
          groups.flatten.filter snapshot.isChanged :=
        List.filter_congr fun table inside => Snapshot.isChanged_congr (held table inside)
      rw [same]
      refine List.filter_congr fun table inside => ?_
      exact decide_eq_decide.2 (not_congr (laterRefused table (List.mem_of_mem_filter inside)).symm)

/-- A run leaves the tables alone that were not changed, in order. -/
theorem RunTrace.unchanged_eq {snapshot final : Snapshot} {groups : List TableGroup}
    {events : List MigrationEvent} (trace : RunTrace snapshot groups events final)
    (distinct : (groups.flatten.map Table.name).Nodup) :
    MigrationReport.unchanged ⟨events⟩ =
      (groups.flatten.filter fun table => !snapshot.isChanged table).map Table.name := by
  induction trace with
  | done => rfl
  | @group snapshot final group groups first later created here rest ih =>
    rw [List.flatten_cons] at distinct
    obtain ⟨-, behind, -⟩ := names_apart distinct
    obtain ⟨held, -, -⟩ := here.apart (rest.creationsAmong behind) distinct
    rw [unchanged_append, here.views.2, ih behind, List.flatten_cons, List.filter_append,
      List.map_append]
    congr 2
    refine List.filter_congr fun table inside => ?_
    rw [Snapshot.isChanged_congr (held table inside)]

/-! ### Migrations -/

/-- The creation of a declared table counts as refused exactly if its call was refused. -/
theorem RunTrace.mem_refusedTables_iff {snapshot final : Snapshot} {groups : List TableGroup}
    {events : List MigrationEvent} (trace : RunTrace snapshot groups events final)
    (distinct : (groups.flatten.map Table.name).Nodup) {table : Table}
    (declared : table ∈ groups.flatten) :
    table.name ∈ refusedTables events ↔
      (createStep table).call ∈ (failedSteps events).map Step.call := by
  constructor
  · intro refused
    obtain ⟨other, inside, same, failed⟩ := (trace.creationsAmong distinct).exists_of_mem refused
    have equal := List.inj_on_of_nodup_map distinct inside declared same
    exact List.mem_map_of_mem (equal ▸ failed)
  · intro called
    obtain ⟨step, failed, same⟩ := List.mem_map.1 called
    have sql : step.sql = (createStep table).sql := by
      injection same with statement
      injection statement
    refine List.mem_filterMap.2 ⟨step, failed, ?_⟩
    rw [Step.created?, sql]
    exact created?_createStep table

theorem mem_diff_iff {snapshot : Snapshot} {groups : List TableGroup} {table : Table}
    (distinct : (groups.flatten.map Table.name).Nodup) (declared : table ∈ groups.flatten) :
    table.name ∈ diff snapshot groups ↔ snapshot.isChanged table := by
  constructor
  · intro named
    obtain ⟨other, inside, same⟩ := List.mem_map.1 named
    obtain ⟨within, changed⟩ := List.mem_filter.1 inside
    exact List.inj_on_of_nodup_map distinct within declared same ▸ changed
  · intro changed
    exact List.mem_map_of_mem (List.mem_filter.2 ⟨declared, changed⟩)

/-- With nothing changed, a run only reports so. -/
theorem runGroups_idle (database : Option Database) {groups : List TableGroup} {snapshot : Snapshot}
    (history : History) (same : ∀ table ∈ groups.flatten, snapshot.isChanged table = false) :
    runGroups database groups snapshot history =
      ((groups.flatten.map fun table => .unchanged table.name, snapshot), history) := by
  induction groups with
  | nil => rfl
  | cons group rest ih =>
    have none : group.filter snapshot.isChanged = [] := by
      refine List.filter_eq_nil_iff.2 fun table inside => ?_
      rw [same table (List.mem_append_left _ inside)]
      exact Bool.false_ne_true
    have all : (group.filter fun table => !snapshot.isChanged table) = group := by
      refine List.filter_eq_self.2 fun table inside => ?_
      rw [same table (List.mem_append_left _ inside)]
      rfl
    have here : runGroup database group snapshot history =
        ((group.map fun table => .unchanged table.name, snapshot), history) := by
      unfold runGroup
      rw [none, all]
      rfl
    have later := ih fun table inside => same table (List.mem_append_right _ inside)
    rw [List.flatten_cons, List.map_append]
    simp only [runGroups, Session.bind_apply, here, later, Session.pure_apply]

/-- With nothing changed, a migration makes no call. -/
theorem migrate_idle (database : Database) {groups : List TableGroup} {snapshot : Snapshot}
    (history : History) (same : ∀ table ∈ groups.flatten, snapshot.isChanged table = false) :
    (migrate (some database) groups (.memory snapshot) history).2 = history := by
  have loaded : (Store.memory snapshot).load = snapshot := rfl
  unfold migrate
  cases Table.validateAll groups.flatten with
  | error cause => rfl
  | ok =>
    simp only [Session.bind_apply, loaded, runGroups_idle (some database) history same]
    split <;> rfl

/-- **A migration leaves exactly the changed tables whose creation was refused.** It creates the other
changed tables and leaves the rest alone; and if no creation was refused, no later migration of the
same tables makes a call. -/
theorem migrate_converges (database : Database) (groups : List TableGroup) (snapshot : Snapshot)
    (history : History) (valid : ∀ table ∈ groups.flatten, table.validate = .ok ())
    (distinct : (groups.flatten.map Table.name).Nodup)
    (numbers : ∀ table ∈ groups.flatten, table.hasNumbers) :
    ∃ report final calls,
      migrate (some database) groups (.memory snapshot) history =
        ((.ok report, .memory final), history ++ calls) ∧
      diff final groups = ((groups.flatten.filter snapshot.isChanged).filter fun table =>
        (createStep table).call ∈ database.refused history calls).map Table.name ∧
      report.created = (diff snapshot groups).filter (· ∉ diff final groups) ∧
      report.unchanged = (groups.flatten.map Table.name).filter (· ∉ diff snapshot groups) ∧
      ((∀ table ∈ groups.flatten, (createStep table).call ∉ database.refused history calls) →
        ∀ (next : Database) (behind : History),
          (migrate (some next) groups (.memory final) behind).2 = behind) := by
  obtain ⟨events, final, after, ran, trace, logged⟩ := migrate_memory database snapshot history valid
  obtain ⟨calls, rfl, refused⟩ := logged.calls
  have refused_iff : ∀ table ∈ groups.flatten,
      ((createStep table).call ∈ database.refused history calls ↔
        table.name ∈ refusedTables events) := by
    intro table declared
    rw [trace.mem_refusedTables_iff distinct declared, refused, failedSteps, List.map_map]
    rfl
  -- A table that was created is held as it is declared, and equals itself.
  have left : ∀ table ∈ groups.flatten, (final.isChanged table ↔
      snapshot.isChanged table ∧ (createStep table).call ∈ database.refused history calls) := by
    intro table declared
    have held := trace.get?_declared distinct declared
    rw [refused_iff table declared]
    by_cases created : snapshot.isChanged table ∧ table.name ∉ refusedTables events
    · rw [if_pos created] at held
      have settled : final.isChanged table = false := by
        simp [Snapshot.isChanged, held, Table.beq_self, numbers table declared]
      rw [settled]
      exact iff_of_false Bool.false_ne_true fun both => created.2 both.2
    · rw [if_neg created] at held
      rw [Snapshot.isChanged_congr held]
      exact ⟨fun changed => ⟨changed, not_not.1 fun fresh => created ⟨changed, fresh⟩⟩, And.left⟩
  have remaining : diff final groups = ((groups.flatten.filter snapshot.isChanged).filter
      fun table => (createStep table).call ∈ database.refused history calls).map Table.name := by
    rw [diff, List.filter_filter]
    refine congrArg _ (List.filter_congr fun table declared => ?_)
    rw [Bool.eq_iff_iff, left table declared, Bool.and_eq_true, decide_eq_true_eq, and_comm]
  refine ⟨⟨events⟩, final, calls, ran, remaining, ?_, ?_, ?_⟩
  · have before : diff snapshot groups = (groups.flatten.filter snapshot.isChanged).map Table.name :=
      rfl
    rw [trace.created_eq distinct, before, List.filter_map]
    refine congrArg _ (List.filter_congr fun table inside => ?_)
    obtain ⟨declared, changed⟩ := List.mem_filter.1 inside
    refine decide_eq_decide.2 (not_congr ?_)
    rw [mem_diff_iff distinct declared, left table declared, refused_iff table declared]
    exact (and_iff_right changed).symm
  · rw [trace.unchanged_eq distinct, List.filter_map]
    refine congrArg _ (List.filter_congr fun table declared => ?_)
    rw [Bool.eq_iff_iff, Function.comp_apply, decide_eq_true_eq, mem_diff_iff distinct declared,
      Bool.not_eq_true', Bool.not_eq_true]
  · intro granted next behind
    refine migrate_idle next behind fun table declared => ?_
    rw [Bool.eq_false_iff]
    intro changed
    exact granted table declared ((left table declared).1 changed).2

/-- A table is left over when the database refuses everything. -/
theorem migrate_converges_refusing :
    let songs : Table := ⟨"songs", [⟨"id", .int, none, true, none, true, none, none, none, false,
      true, none, false⟩]⟩
    songs.validate = .ok () ∧ songs.hasNumbers ∧
    ∃ report final calls,
      migrate (some (.refusing "down")) [[songs]] (.memory .empty) [] =
        ((.ok report, .memory final), calls) ∧
      diff final [[songs]] = ["songs"] ∧ report.created = [] := by
  intro songs
  have valid : ∀ table ∈ [[songs]].flatten, table.validate = .ok () := by
    intro table inside
    rw [List.mem_singleton.1 inside]
    rfl
  have distinct : ([[songs]].flatten.map Table.name).Nodup := List.nodup_singleton _
  have numbers : ∀ table ∈ [[songs]].flatten, table.hasNumbers := by
    intro table inside
    rw [List.mem_singleton.1 inside]
    rfl
  obtain ⟨report, final, calls, ran, remaining, created, -⟩ :=
    migrate_converges (.refusing "down") [[songs]] .empty [] valid distinct numbers
  have made : calls = [(dropStep .empty songs).call, (createStep songs).call] :=
    (congrArg Prod.snd ran).symm
  have left : diff final [[songs]] = ["songs"] := by
    rw [remaining, made]
    have refused : (Database.refusing "down").refused []
        [(dropStep .empty songs).call, (createStep songs).call] =
          [(dropStep .empty songs).call, (createStep songs).call] := rfl
    have changed : [[songs]].flatten.filter (Snapshot.isChanged .empty) = [songs] := rfl
    rw [refused, changed]
    simp [songs]
  refine ⟨valid songs List.mem_cons_self, numbers songs List.mem_cons_self, report, final, calls, ran,
    left, ?_⟩
  rw [created, left]
  rfl

end SqlCraft.Migration
