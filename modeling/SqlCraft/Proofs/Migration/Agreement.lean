/-
**Agreement: the database holds what the snapshot records.**

If commands are only refused by the rules and the database agrees with the snapshot, every group keeps
the agreement, so a run does, and nothing is refused in it. Such a run leaves no declared table behind, so
both the database and the snapshot hold all of them.

* `SoundGroup`, `Available` — what is asked of declared tables;
* `RunTrace.agrees` — a run keeps the agreement;
* `RunTrace.fulfils` — a run in which only the rules refuse records what is declared;
* `migrate_agrees` — so does a migration, with the snapshot that is saved and the tables it reports.
-/

import SqlCraft.Proofs.Migration.Declared

namespace SqlCraft.Migration

/-! ### Through a run -/

/-- The tables of a group are sound, of different names, and their constraints have different
names. -/
structure SoundGroup (group : TableGroup) : Prop where
  valid : ∀ table ∈ group, table.validate = .ok ()
  distinct : (group.map Table.name).Nodup
  named : ∀ table ∈ group, table.constraintNames.Nodup

theorem SoundGroup.validAll {groups : List TableGroup}
    (soundGroups : ∀ group ∈ groups, SoundGroup group) :
    ∀ table ∈ groups.flatten, table.validate = .ok () := by
  intro table inside
  obtain ⟨group, among, within⟩ := List.mem_flatten.1 inside
  exact (soundGroups group among).valid table within

/-- Every foreign key refers to a table of its group or of an earlier one, or to a known one. -/
def Available (known : String → Prop) : List TableGroup → Prop
  | [] => True
  | group :: rest =>
    (∀ table ∈ group, ∀ entry ∈ table.foreignKeys,
      entry.2.table ∈ group.map Table.name ∨ known entry.2.table) ∧
    Available (fun name => name ∈ group.map Table.name ∨ known name) rest

/-- If commands are only refused by the rules, a run keeps the agreement, and nothing is refused. -/
theorem RunTrace.agrees {plain : Prop} (only : plain) {snapshot final : Snapshot}
    {groups : List TableGroup} {events : List MigrationEvent} {before after : Catalog}
    {known : String → Prop} (trace : RunTrace snapshot groups events final)
    (follows : Follows plain before events after) (sound : snapshot.Sound)
    (agrees : before.Agrees snapshot) (declared : ∀ group ∈ groups, SoundGroup group)
    (available : Available known groups) (recorded : ∀ name, known name → snapshot.contains name) :
    failedSteps events = [] ∧ final.Sound ∧ after.Agrees final := by
  induction trace generalizing before known with
  | done =>
    cases follows
    exact ⟨rfl, sound, agrees⟩
  | @group snapshot final group groups first later created here rest ih =>
    obtain ⟨middle, followsFirst, followsLater⟩ := follows.append_inv
    have passed := here.passed sound followsFirst
    obtain ⟨valid, distinct, named⟩ := declared group List.mem_cons_self
    have targets : ∀ table ∈ group, ∀ held ∈ table.heldKeys,
        held.key.table ∈ group.map Table.name ∨ snapshot.contains held.key.table := by
      intro table inside held mine
      obtain ⟨entry, among, rfl⟩ := List.mem_map.1 mine
      exact (available.1 table inside entry among).imp id (recorded _)
    have none := passed.failed_eq only sound distinct named agrees targets
    obtain ⟨soundly, agreesAgain⟩ := passed.agrees only sound distinct named agrees none
    have all := passed.created_eq only sound distinct agrees.within
    have knownAgain : ∀ name, name ∈ group.map Table.name ∨ known name →
        (record snapshot created).contains name := by
      rintro name (declaredHere | earlier)
      · obtain ⟨table, inside, rfl⟩ := List.mem_map.1 declaredHere
        rw [contains_record, all]
        exact changed_or_recorded inside
      · exact (contains_record snapshot created name).2 (.inr (recorded name earlier))
    obtain ⟨noneLater, finally'⟩ := ih followsLater soundly agreesAgain
      (fun other inside => declared other (List.mem_cons_of_mem _ inside)) available.2 knownAgain
    exact ⟨by rw [failedSteps_append, none, noneLater]; rfl, finally'⟩

/-- **A run in which only the rules refuse records what is declared**, and creates each name anew that a
declaration changes. -/
theorem RunTrace.fulfils {plain : Prop} (only : plain) {snapshot final : Snapshot}
    {groups : List TableGroup} {events : List MigrationEvent} {before after : Catalog}
    (trace : RunTrace snapshot groups events final) (follows : Follows plain before events after)
    (sound : snapshot.Sound) (within : before.Within snapshot)
    (soundGroups : ∀ group ∈ groups, SoundGroup group) :
    Declares snapshot final groups.flatten ∧
      ∀ name, name ∈ MigrationReport.created ⟨events⟩ ↔ name ∈ diff snapshot groups := by
  obtain ⟨same, made⟩ := trace.completes only follows sound within
    (fun group inside => (soundGroups group inside).distinct)
    fun group inside => (soundGroups group inside).named
  rw [same, made]
  exact ⟨declares_completed (fun group inside => (soundGroups group inside).distinct) snapshot,
    mem_creations_iff snapshot groups⟩

/-- **A migration keeps the database and the snapshot in agreement**, and reports no failure, when the
database refuses only what its rules refuse. Its calls are the statements it reports, the names it
creates are those that a declaration changes, and of each declared name the table that is declared last
is recorded and there. -/
theorem migrate_agrees (catalog : Catalog) (snapshot : Snapshot) (groups : List TableGroup)
    (sound : snapshot.Sound) (agrees : catalog.Agrees snapshot)
    (declared : ∀ group ∈ groups, SoundGroup group)
    (available : Available (fun name => snapshot.contains name) groups) :
    ∃ report final calls,
      migrate (some (catalog.database .none)) groups (.memory snapshot) [] =
        ((.ok report, .memory final), calls) ∧
      report.failures = [] ∧ final.Sound ∧ (catalog.after .none calls).Agrees final ∧
      calls = report.statements.map (fun sql => Call.execute ⟨sql, []⟩) ∧
      (∀ name, name ∈ report.created ↔ name ∈ diff snapshot groups) ∧
      Declares snapshot final groups.flatten ∧
      ∀ table ∈ groups.flatten, table.name ∈ (catalog.after .none calls).tables := by
  obtain ⟨events, final, calls, ran, trace, logged⟩ :=
    migrate_memory (catalog.database .none) snapshot [] (SoundGroup.validAll declared)
  obtain ⟨none, soundly, agreesAgain⟩ := trace.agrees (fun _ _ => rfl) logged.follows sound agrees
    declared available fun _ known => known
  obtain ⟨declares, made⟩ := trace.fulfils (fun _ _ => rfl) logged.follows sound agrees.within declared
  exact ⟨⟨events⟩, final, calls, ran, List.map_eq_nil_iff.1 none, soundly, agreesAgain,
    logged.statements, made, declares, fun table inside =>
      (agreesAgain.tables table.name).2 (declares.contains inside)⟩

/-! ### Authors and their songs -/

/-- A table of authors. -/
def authors : Table := ⟨"authors", [{ name := "id", type := .int, primaryKey := true }]⟩

/-- The same table with another column. -/
def namedAuthors : Table :=
  ⟨"authors", [{ name := "id", type := .int, primaryKey := true }, { name := "name", type := .text }]⟩

/-- A table of songs, each by an author. -/
def songs : Table :=
  let key : ForeignKey := { table := "authors", field := "id", constraintName := some "by" }
  ⟨"songs", [{ name := "author", type := .int, foreignKey := some key }]⟩

/-- The database that holds authors and songs. -/
def music : Catalog := ⟨{"authors", "songs"}, {⟨"songs", "by", "authors"⟩}⟩

/-- The snapshot that records authors and songs. -/
def musicSnapshot : Snapshot := record .empty [authors, songs]

theorem musicSnapshot_sound : musicSnapshot.Sound := by
  refine record_sound ⟨fun name table found => ?_, fun name table found => ?_⟩ ?_
  · cases found
  · cases found
  · intro table inside
    simp only [List.mem_cons, List.not_mem_nil, or_false] at inside
    rcases inside with rfl | rfl <;> decide

theorem music_agrees : music.Agrees musicSnapshot where
  tables name := by
    rw [musicSnapshot, contains_record]
    simp [music, authors, songs, Snapshot.contains, Snapshot.get?, Snapshot.empty]
  constraints constraint := by
    constructor
    · intro inside
      rw [music, Finset.mem_singleton] at inside
      rw [inside]
      exact ⟨songs, rfl, _, List.mem_singleton.2 rfl, rfl⟩
    · rintro ⟨table, found, held, inside, rfl⟩
      rcases get?_record_cases found with ⟨made, -⟩ | ⟨-, earlier⟩
      · simp only [List.mem_cons, List.not_mem_nil, or_false] at made
        rcases made with rfl | rfl
        · cases inside
        · rw [List.mem_singleton.1 inside]
          exact Finset.mem_singleton.2 rfl
      · cases earlier
  closed constraint inside := by
    rw [music, Finset.mem_singleton] at inside
    rw [inside]
    exact ⟨by decide, by decide⟩

theorem music_soundGroup : SoundGroup [namedAuthors, songs] where
  valid table inside := by
    simp only [List.mem_cons, List.not_mem_nil, or_false] at inside
    rcases inside with rfl | rfl <;> rfl
  distinct := by decide
  named table inside := by
    simp only [List.mem_cons, List.not_mem_nil, or_false] at inside
    rcases inside with rfl | rfl <;> decide

theorem music_available :
    Available (fun name => musicSnapshot.contains name) [[namedAuthors, songs]] := by
  refine ⟨fun table inside entry among => .inl ?_, trivial⟩
  simp only [List.mem_cons, List.not_mem_nil, or_false] at inside
  rcases inside with rfl | rfl
  · cases among
  · rw [List.mem_singleton.1 among]
    decide

/-- The statements by which the table of authors gets its new column. -/
def namedAuthorsSql : List String :=
  ["ALTER TABLE \x60songs\x60 DROP CONSTRAINT \x60by\x60",
    "DROP TABLE \x60authors\x60",
    "CREATE TABLE \x60authors\x60 (\n  \x60id\x60 INT,\n  \x60name\x60 TEXT,\n  PRIMARY KEY (\x60id\x60)\n)",
    "ALTER TABLE \x60songs\x60 ADD CONSTRAINT \x60by\x60 FOREIGN KEY (\x60author\x60) " ++
      "REFERENCES \x60authors\x60 (\x60id\x60)"]

theorem namedAuthors_run :
    let run := migrate (some (music.database .none)) [[namedAuthors, songs]] (.memory musicSnapshot) []
    run.1.1.toOption.map MigrationReport.created = some ["authors"] ∧
      run.1.1.toOption.map MigrationReport.statements = some namedAuthorsSql ∧
      music.after .none run.2 = music := by
  decide +kernel

/-- The table of authors is created anew, with the key of the songs dropped before and added behind. -/
theorem migrate_agrees_music :
    musicSnapshot.Sound ∧ music.Agrees musicSnapshot ∧ SoundGroup [namedAuthors, songs] ∧
    Available (fun name => musicSnapshot.contains name) [[namedAuthors, songs]] ∧
    ∃ report final calls,
      migrate (some (music.database .none)) [[namedAuthors, songs]] (.memory musicSnapshot) [] =
        ((.ok report, .memory final), calls) ∧
      (report.failures = [] ∧ final.Sound ∧ (music.after .none calls).Agrees final ∧
        calls = report.statements.map (fun sql => Call.execute ⟨sql, []⟩) ∧
        (∀ name, name ∈ report.created ↔ name ∈ diff musicSnapshot [[namedAuthors, songs]]) ∧
        Declares musicSnapshot final [namedAuthors, songs] ∧
        ∀ table ∈ [namedAuthors, songs], table.name ∈ (music.after .none calls).tables) ∧
      report.created = ["authors"] ∧ report.statements = namedAuthorsSql ∧
      music.after .none calls = music := by
  obtain ⟨report, final, calls, ran, outcome⟩ :=
    migrate_agrees music musicSnapshot [[namedAuthors, songs]] musicSnapshot_sound music_agrees
      (List.forall_mem_singleton.2 music_soundGroup) music_available
  have computed := namedAuthors_run
  rw [ran] at computed
  obtain ⟨created, statements, same⟩ := computed
  exact ⟨musicSnapshot_sound, music_agrees, music_soundGroup, music_available, report, final, calls,
    ran, outcome, Option.some.inj created, Option.some.inj statements, same⟩

end SqlCraft.Migration
