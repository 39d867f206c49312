/-
**Idempotence: when a migration leaves nothing for the next one.**

A database that refuses nothing lets every changed table be created, so behind a run each declared
name is held as it was declared last. The next run finds nothing to do exactly if no other
declaration of that name differs from it, which includes that the declaration equals itself.

* `Consistent` — declarations of one name are equal;
* `RunTrace.settled` — behind a run in which nothing failed, consistent tables are unchanged;
* `RunTrace.settled_of_silent` — a run without statements found every table unchanged;
* `migrate_settles_iff` — a migration is idempotent exactly if its tables are consistent;
* `rival_declarations_never_settle` — otherwise every run rebuilds.
-/

import SqlCraft.Proofs.Migration.Convergence
import SqlCraft.Proofs.Table.Equality

namespace SqlCraft

namespace Migration

/-- Declarations of one name are equal, and so is each declaration to itself. -/
def Consistent (tables : List Table) : Prop :=
  ∀ table ∈ tables, ∀ other ∈ tables, table.name = other.name → table == other

/-- Every declaration of the name of a table equals it. -/
def Undisputed (tables : List Table) (table : Table) : Prop :=
  ∀ other ∈ tables, other.name = table.name → other == table

theorem diff_eq_nil_iff {snapshot : Snapshot} {groups : List TableGroup} :
    diff snapshot groups = [] ↔ ∀ table ∈ groups.flatten, snapshot.isChanged table = false := by
  rw [diff, List.map_eq_nil_iff, List.filter_eq_nil_iff]
  simp only [Bool.not_eq_true]

/-- Tables that all equal what is held under their names are consistent. -/
theorem consistent_of_unchanged {snapshot : Snapshot} {tables : List Table}
    (same : ∀ table ∈ tables, snapshot.isChanged table = false) : Consistent tables := by
  intro table inside other within named
  obtain ⟨recorded, found, equal⟩ := Snapshot.isChanged_eq_false_iff.1 (same table inside)
  obtain ⟨held, there, alike⟩ := Snapshot.isChanged_eq_false_iff.1 (same other within)
  rw [← named, found] at there
  cases there
  exact PartialEquivBEq.trans (PartialEquivBEq.symm equal) alike

/-! ### What recording settles -/

/-- Behind recorded tables a table is unchanged that none of them disputes, if its name is among them
or it was unchanged before. -/
theorem unchanged_record {snapshot : Snapshot} {created : List Table} {table : Table}
    (undisputed : Undisputed created table)
    (settled : table.name ∈ created.map Table.name ∨ snapshot.isChanged table = false) :
    (record snapshot created).isChanged table = false := by
  rw [Snapshot.isChanged_eq_false_iff]
  by_cases named : table.name ∈ created.map Table.name
  · obtain ⟨held, found⟩ := Option.isSome_iff_exists.1
      ((contains_record snapshot created table.name).2 (.inl named))
    refine ⟨held, found, ?_⟩
    obtain ⟨made, same⟩ | ⟨missing, -⟩ := get?_record_cases found
    · exact undisputed held made same
    · exact absurd named missing
  · rw [get?_record_of_not_mem snapshot named]
    exact Snapshot.isChanged_eq_false_iff.1 (settled.resolve_left named)

/-! ### Runs in which nothing failed -/

theorem Rebuilt.created_all {snapshot : Snapshot} {tables created : List Table}
    {events : List MigrationEvent} (rebuilt : Rebuilt snapshot tables events created)
    (clean : MigrationReport.failures ⟨events⟩ = []) : created = tables := by
  induction rebuilt with
  | nil => rfl
  | @granted tables created events table dropped rest ih =>
    cases dropped with
    | none => rw [ih clean]
    | some cause => cases clean
  | refused table dropped cause _ _ =>
    cases dropped with
    | none => cases clean
    | some reason => cases clean

theorem GroupTrace.created_all {snapshot : Snapshot} {group : TableGroup} {created : List Table}
    {events : List MigrationEvent} (trace : GroupTrace snapshot group events created)
    (clean : MigrationReport.failures ⟨events⟩ = []) : created = changedTables snapshot group := by
  cases trace with
  | phases _ _ rebuilds _ _ =>
    simp only [failures_append, List.append_eq_nil_iff] at clean
    exact rebuilds.created_all clean.1.2.1.1.2

/-- Behind a group in which nothing failed, its tables are unchanged that nothing in it disputes. -/
theorem GroupTrace.settled {snapshot : Snapshot} {group : TableGroup} {created : List Table}
    {events : List MigrationEvent} (trace : GroupTrace snapshot group events created)
    (clean : MigrationReport.failures ⟨events⟩ = []) {table : Table} (declared : table ∈ group)
    (undisputed : Undisputed group table) : (record snapshot created).isChanged table = false := by
  rw [trace.created_all clean]
  refine unchanged_record (fun other made => undisputed other ?_) ?_
  · exact changedTables_subset snapshot group made
  · by_cases changed : snapshot.isChanged table
    · exact .inl (List.mem_map_of_mem (List.mem_filter.2 ⟨declared, changed⟩))
    · exact .inr (Bool.eq_false_iff.2 changed)

/-- A table that is unchanged stays so, if no declaration disputes it. -/
theorem RunTrace.stays_settled {snapshot final : Snapshot} {groups : List TableGroup}
    {events : List MigrationEvent} (trace : RunTrace snapshot groups events final) {table : Table}
    (undisputed : Undisputed groups.flatten table) (settled : snapshot.isChanged table = false) :
    final.isChanged table = false := by
  induction trace with
  | done => exact settled
  | @group snapshot final group groups first later created here rest ih =>
    rw [List.flatten_cons] at undisputed
    refine ih (fun other behind => undisputed other (List.mem_append_right _ behind)) ?_
    refine unchanged_record (fun other made => undisputed other (List.mem_append_left _ ?_))
      (.inr settled)
    exact changedTables_subset snapshot group (here.created_subset.subset made)

/-- **Behind a run in which nothing failed, the tables are unchanged that no declaration disputes.** -/
theorem RunTrace.settled {snapshot final : Snapshot} {groups : List TableGroup}
    {events : List MigrationEvent} (trace : RunTrace snapshot groups events final)
    (clean : MigrationReport.failures ⟨events⟩ = []) {table : Table}
    (declared : table ∈ groups.flatten) (undisputed : Undisputed groups.flatten table) :
    final.isChanged table = false := by
  induction trace with
  | done => cases declared
  | @group snapshot final group groups first later created here rest ih =>
    rw [failures_append, List.append_eq_nil_iff] at clean
    rw [List.flatten_cons] at declared undisputed
    have behind : Undisputed groups.flatten table := fun other inside =>
      undisputed other (List.mem_append_right _ inside)
    rcases List.mem_append.1 declared with inside | later
    · have within : Undisputed group table := fun other inside =>
        undisputed other (List.mem_append_left _ inside)
      exact rest.stays_settled behind (here.settled clean.1 inside within)
    · exact ih clean.2 later behind

/-! ### Runs without statements -/

theorem Rebuilt.tables_eq_nil {snapshot : Snapshot} {tables created : List Table}
    {events : List MigrationEvent} (rebuilt : Rebuilt snapshot tables events created)
    (silent : MigrationReport.statements ⟨events⟩ = []) : tables = [] := by
  cases rebuilt with
  | nil => rfl
  | granted => cases silent
  | refused => cases silent

/-- A run without statements found every table unchanged. -/
theorem RunTrace.settled_of_silent {snapshot final : Snapshot} {groups : List TableGroup}
    {events : List MigrationEvent} (trace : RunTrace snapshot groups events final)
    (silent : MigrationReport.statements ⟨events⟩ = []) :
    ∀ table ∈ groups.flatten, snapshot.isChanged table = false := by
  induction trace with
  | done => exact fun table inside => absurd inside List.not_mem_nil
  | @group snapshot final group groups first later created here rest ih =>
    rw [statements_append, List.append_eq_nil_iff] at silent
    have none : changedTables snapshot group = [] := by
      cases here with
      | phases _ _ rebuilds _ _ =>
        simp only [statements_append, List.append_eq_nil_iff] at silent
        exact rebuilds.tables_eq_nil silent.1.1.2.1.1.2
    have empty : created = [] := List.sublist_nil.1 (none ▸ here.created_subset)
    intro table declared
    rw [List.flatten_cons] at declared
    rcases List.mem_append.1 declared with inside | later
    · have quiet := List.filter_eq_nil_iff.1 none table inside
      exact Bool.eq_false_iff.2 quiet
    · have settled := ih silent.2 table later
      rwa [empty] at settled

/-- A migration makes no call exactly if no table is changed. -/
theorem migrate_silent_iff (database : Database) {groups : List TableGroup} {snapshot : Snapshot}
    (history : History) (valid : ∀ table ∈ groups.flatten, table.validate = .ok ()) :
    (migrate (some database) groups (.memory snapshot) history).2 = history ↔
      diff snapshot groups = [] := by
  rw [diff_eq_nil_iff]
  constructor
  · intro silent
    obtain ⟨events, final, after, ran, trace, logged⟩ :=
      migrate_memory database snapshot history valid
    rw [ran] at silent
    obtain rfl : after = history := silent
    have grown := logged.statements
    rw [List.self_eq_append_right, List.map_eq_nil_iff] at grown
    exact trace.settled_of_silent grown
  · exact migrate_idle database history

/-! ### Two migrations -/

/-- **A migration that nothing refuses is idempotent exactly if its tables are consistent.** -/
theorem migrate_settles_iff (database : Database) (groups : List TableGroup) (snapshot : Snapshot)
    (history : History) (valid : ∀ table ∈ groups.flatten, table.validate = .ok ())
    (refusesNothing : database.RefusesNothing) :
    ∃ report final calls,
      migrate (some database) groups (.memory snapshot) history =
        ((.ok report, .memory final), history ++ calls) ∧
      (diff final groups = [] ↔ Consistent groups.flatten) ∧
      ∀ (next : Database) (behind : History),
        (migrate (some next) groups (.memory final) behind).2 = behind ↔
          Consistent groups.flatten := by
  obtain ⟨events, final, after, ran, trace, logged⟩ := migrate_memory database snapshot history valid
  obtain ⟨calls, rfl, refused⟩ := logged.calls
  have clean : MigrationReport.failures ⟨events⟩ = [] := by
    rw [refusesNothing.refused_eq, eq_comm] at refused
    exact List.map_eq_nil_iff.1 refused
  have settles : diff final groups = [] ↔ Consistent groups.flatten := by
    rw [diff_eq_nil_iff]
    refine ⟨consistent_of_unchanged, fun consistent table declared => ?_⟩
    exact trace.settled clean declared fun other within named =>
      consistent other within table declared named
  refine ⟨⟨events⟩, final, calls, ran, settles, fun next behind => ?_⟩
  exact (migrate_silent_iff next behind valid).trans settles

/-- Two groups may declare the same table. -/
theorem migrate_settles_repeated :
    let songs : Table := ⟨"songs", [{ name := "id", type := .int, primaryKey := true },
      { name := "rating", type := .double, defaultValue := some (.float 0.5) }]⟩
    songs.validate = .ok () ∧ Database.granting.RefusesNothing ∧
    ∃ report final calls,
      migrate (some .granting) [[songs], [songs]] (.memory .empty) [] =
        ((.ok report, .memory final), calls) ∧
      diff final [[songs], [songs]] = [] ∧
      (migrate (some .granting) [[songs], [songs]] (.memory final) []).2 = [] := by
  intro songs
  have valid : ∀ table ∈ [[songs], [songs]].flatten, table.validate = .ok () := by
    intro table inside
    obtain rfl | rfl : table = songs ∨ table = songs := by simpa using inside
    · rfl
    · rfl
  have consistent : Consistent [[songs], [songs]].flatten := by
    intro table inside other within _
    obtain rfl : table = songs := by simpa using inside
    obtain rfl : other = songs := by simpa using within
    rw [Table.beq_self]
    rfl
  obtain ⟨report, final, calls, ran, settles, idle⟩ :=
    migrate_settles_iff .granting [[songs], [songs]] .empty [] valid Database.granting_refusesNothing
  exact ⟨valid songs List.mem_cons_self, Database.granting_refusesNothing, report, final, calls, ran,
    settles.2 consistent, (idle .granting []).2 consistent⟩

/-! ### Tables that never settle -/

/-- A table of songs. -/
def narrowSongs : Table := ⟨"songs", [{ name := "id", type := .int }]⟩

/-- Another table under the same name. -/
def wideSongs : Table := ⟨"songs", [{ name := "id", type := .bigint }]⟩

/-- A table with a default that is not a number. -/
def unratedSongs : Table :=
  ⟨"songs", [{ name := "rating", type := .double, defaultValue := some (.float (0.0 / 0.0)) }]⟩

/-- The outcome of a migration of an empty database, the store and the calls behind it. -/
def firstRun (groups : List TableGroup) : (Except RunError MigrationReport × Store) × History :=
  migrate (some .granting) groups (.memory .empty) []

/-- **Sound tables may never settle:** of two declarations of one name each run drops what the run
before created last, and a default that is not a number differs from itself. -/
theorem rival_declarations_never_settle :
    (∀ table ∈ [narrowSongs, wideSongs, unratedSongs], table.validate = .ok ()) ∧
    ∀ groups ∈ [[[narrowSongs], [wideSongs]], [[unratedSongs]]],
      diff (firstRun groups).1.2.load groups = ["songs"] ∧
      Call.execute ⟨"DROP TABLE \x60songs\x60", []⟩ ∈
        (migrate (some .granting) groups (firstRun groups).1.2 []).2 := by
  decide +kernel

end Migration

end SqlCraft
