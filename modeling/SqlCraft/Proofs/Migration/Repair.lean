/-
**Repair: what a second migration makes good.**

A run that is disturbed leaves recorded tables of two kinds: those that are there with their keys, up
to additions that failed, and those that are declared differently and will be rebuilt by a later run.
A run that is not disturbed turns the second kind into the first: it creates what is declared and not
recorded. What it cannot make good is a key whose addition failed, on a table that is not changed any more:

* `Accounts` — every recorded table is settled, or pending in some declared tables;
* `RunTrace.accounts` — whatever is refused, the declared tables account for what is unsettled;
* `RunTrace.accounts_plain` — a run in which only the rules refuse leaves nothing pending;
* `RunTrace.settles_created` — only additions that it refused itself are missing from what it created;
* `RunTrace.holds_or_lost` — which keys may be missing behind such a run;
* `Repaired`, `migrate_twice` — the database behind two migrations, the second of them undisturbed;
* `refused_key_stays_missing` — a refused key may be missing for good.
-/

import SqlCraft.Proofs.Migration.Agreement
import SqlCraft.Proofs.Migration.Convergence

namespace SqlCraft.Migration

/-- Whether a table that is declared under a name differs from the recorded one. -/
def Pending (snapshot : Snapshot) (declared : List Table) (name : String) : Prop :=
  ∃ table ∈ declared, table.name = name ∧ snapshot.isChanged table

/-- The database holds nothing that is not recorded, and every recorded table is settled in it, or is
declared differently. -/
structure Accounts (catalog : Catalog) (snapshot : Snapshot) (failed : List Step)
    (declared : List Table) : Prop where
  sound : snapshot.Sound
  within : catalog.Within snapshot
  settled : ∀ name table, snapshot.get? name = some table →
    catalog.Settles failed table ∨ Pending snapshot declared name

/-- A table stays pending if what is recorded under its name stays. -/
theorem Pending.congr {first second : Snapshot} {declared : List Table} {name : String}
    (pending : Pending first declared name) (same : second.get? name = first.get? name) :
    Pending second declared name := by
  obtain ⟨table, inside, rfl, changed⟩ := pending
  exact ⟨table, inside, rfl, Snapshot.isChanged_congr same ▸ changed⟩

theorem Pending.mono {snapshot : Snapshot} {declared more : List Table} {name : String}
    (pending : Pending snapshot declared name) (subset : declared ⊆ more) :
    Pending snapshot more name := by
  obtain ⟨table, inside, same, changed⟩ := pending
  exact ⟨table, subset inside, same, changed⟩

theorem Pending.not_nil {snapshot : Snapshot} {name : String} :
    ¬ Pending snapshot [] name := by
  rintro ⟨table, inside, -⟩
  cases inside

namespace Accounts

variable {catalog : Catalog} {snapshot : Snapshot} {failed : List Step}

/-- Where nothing is pending, every recorded table is settled. -/
theorem settles (accounts : Accounts catalog snapshot failed []) {name : String} {table : Table}
    (found : snapshot.get? name = some table) : catalog.Settles failed table :=
  (accounts.settled name table found).resolve_right Pending.not_nil

/-- Where nothing is pending, the tables are the recorded ones. -/
theorem mem_tables_iff (accounts : Accounts catalog snapshot failed []) (name : String) :
    name ∈ catalog.tables ↔ snapshot.contains name := by
  refine ⟨accounts.within.tables name, fun recorded => ?_⟩
  obtain ⟨table, found⟩ := Option.isSome_iff_exists.1 recorded
  rw [← accounts.sound.keyed name table found]
  exact (accounts.settles found).1

/-- Where nothing is pending and no addition failed, the constraints are the recorded ones, too. -/
theorem agrees (accounts : Accounts catalog snapshot failed [])
    (others : ∀ step ∈ failed, step.kind ≠ .createForeignKey) : catalog.Agrees snapshot := by
  refine accounts.within.agrees accounts.sound fun name table found => ?_
  obtain ⟨there, keys⟩ := accounts.settles found
  refine ⟨there, fun held inside => .inl ((keys held inside).resolve_right fun lost => ?_)⟩
  exact others held.createStep lost rfl

end Accounts

/-! ### One group -/

section Group

variable {plain : Prop} {snapshot : Snapshot} {group : TableGroup} {created : List Table}
  {before after : Catalog} {failed earlier : List Step} {declared : List Table}

/-- **Whatever is refused, a group accounts for what it leaves unsettled:** that is a table of the
group, which will be rebuilt, or it was pending before. -/
theorem Passed.accounts (passed : Passed plain snapshot group created before failed after)
    (among : created ⊆ changedTables snapshot group) (soundGroup : SoundGroup group)
    (accounts : Accounts before snapshot earlier declared) :
    Accounts after (record snapshot created) (earlier ++ failed) (declared ++ group) := by
  obtain ⟨sound, within, settled⟩ := accounts
  obtain ⟨-, distinct, named⟩ := soundGroup
  refine ⟨?_, passed.within sound distinct within, fun name table found => ?_⟩
  · exact record_sound sound fun table made =>
      named table (changedTables_subset snapshot group (among made))
  · rcases get?_record_cases found with ⟨made, -⟩ | ⟨outside, recorded⟩
    · have settles := passed.settles_created sound distinct within.closed table made
      exact .inl (settles.mono (List.subset_append_right _ _))
    · have same := found.trans recorded.symm
      by_cases changed : name ∈ (changedTables snapshot group).map Table.name
      · obtain ⟨other, inside, rfl⟩ := List.mem_map.1 changed
        obtain ⟨inGroup, differs⟩ := List.mem_filter.1 inside
        have pending : Pending snapshot group other.name := ⟨other, inGroup, rfl, differs⟩
        exact .inr ((pending.congr same).mono (List.subset_append_right _ _))
      · rcases settled name table recorded with settles | pending
        · obtain rfl := sound.keyed name table recorded
          exact .inl (passed.settles_other sound distinct within.closed recorded changed settles)
        · exact .inr ((pending.congr same).mono (List.subset_append_left _ _))

/-- If commands are only refused by the rules, a group settles what was pending in it. -/
theorem Passed.accounts_plain (only : plain)
    (passed : Passed plain snapshot group created before failed after)
    (soundGroup : SoundGroup group) {rest : List Table}
    (accounts : Accounts before snapshot earlier (group ++ rest)) :
    Accounts after (record snapshot created) (earlier ++ failed) rest := by
  have all := passed.created_eq only accounts.sound soundGroup.distinct accounts.within
  have among : created ⊆ changedTables snapshot group := fun table made => all ▸ made
  obtain ⟨sound, within, settled⟩ := passed.accounts among soundGroup accounts
  refine ⟨sound, within, fun name table found => ?_⟩
  rcases settled name table found with settles | ⟨other, inside, rfl, changed⟩
  · exact .inl settles
  · rcases get?_record_cases found with ⟨made, -⟩ | ⟨outside, recorded⟩
    · have settles := passed.settles_created accounts.sound soundGroup.distinct
        accounts.within.closed table made
      exact .inl (settles.mono (List.subset_append_right _ _))
    · -- A table of the group that is not created is not changed, so it cannot be pending here.
      have unchanged : other ∉ group := by
        intro here
        rw [Snapshot.isChanged_congr (found.trans recorded.symm)] at changed
        rw [all] at outside
        exact outside (List.mem_map_of_mem (List.mem_filter.2 ⟨here, changed⟩))
      have later : other ∈ rest := by
        rcases List.mem_append.1 inside with before | again
        · exact (List.mem_append.1 before).resolve_left unchanged
        · exact absurd again unchanged
      exact .inr ⟨other, later, rfl, changed⟩

end Group

/-! ### Runs -/

section Run

variable {plain : Prop} {snapshot final : Snapshot} {groups : List TableGroup}
  {events : List MigrationEvent} {before after : Catalog} {earlier : List Step}

/-- **Whatever is refused, the declared tables account for what a run leaves unsettled.** -/
theorem RunTrace.accounts {declared : List Table} (trace : RunTrace snapshot groups events final)
    (follows : Follows plain before events after) (soundGroups : ∀ group ∈ groups, SoundGroup group)
    (accounts : Accounts before snapshot earlier declared) :
    Accounts after final (earlier ++ failedSteps events) (declared ++ groups.flatten) := by
  induction trace generalizing before earlier declared with
  | done =>
    cases follows
    rw [List.flatten_nil, List.append_nil]
    exact (List.append_nil earlier).symm ▸ accounts
  | @group snapshot final group groups first later created here rest ih =>
    obtain ⟨middle, followsFirst, followsLater⟩ := follows.append_inv
    have start := (here.passed accounts.sound followsFirst).accounts here.created_subset.subset
      (soundGroups group List.mem_cons_self) accounts
    have finish := ih followsLater
      (fun other inside => soundGroups other (List.mem_cons_of_mem _ inside)) start
    rw [failedSteps_append, List.flatten_cons, ← List.append_assoc, ← List.append_assoc]
    exact finish

/-- **A run in which commands are only refused by the rules leaves nothing pending.** -/
theorem RunTrace.accounts_plain (only : plain) (trace : RunTrace snapshot groups events final)
    (follows : Follows plain before events after) (soundGroups : ∀ group ∈ groups, SoundGroup group)
    (accounts : Accounts before snapshot earlier groups.flatten) :
    Accounts after final (earlier ++ failedSteps events) [] := by
  induction trace generalizing before earlier with
  | done =>
    cases follows
    exact (List.append_nil earlier).symm ▸ accounts
  | @group snapshot final group groups first later created here rest ih =>
    obtain ⟨middle, followsFirst, followsLater⟩ := follows.append_inv
    have start := (here.passed accounts.sound followsFirst).accounts_plain only
      (soundGroups group List.mem_cons_self) accounts
    have finish := ih followsLater
      (fun other inside => soundGroups other (List.mem_cons_of_mem _ inside)) start
    rw [failedSteps_append, ← List.append_assoc]
    exact finish

/-- **What a run creates in which only the rules refuse is there with its keys**, but for those whose
addition failed in this run. -/
theorem RunTrace.settles_created (only : plain) (trace : RunTrace snapshot groups events final)
    (follows : Follows plain before events after) (soundGroups : ∀ group ∈ groups, SoundGroup group)
    (sound : snapshot.Sound) (within : before.Within snapshot) {name : String} {table : Table}
    (found : final.get? name = some table)
    (settled : name ∈ MigrationReport.created ⟨events⟩ ∨
      (snapshot.get? name = some table ∧ before.Settles earlier table)) :
    after.Settles (earlier ++ failedSteps events) table := by
  induction trace generalizing before earlier with
  | done =>
    cases follows
    exact (List.append_nil earlier).symm ▸ (settled.resolve_left List.not_mem_nil).2
  | @group snapshot final group groups first later created here rest ih =>
    obtain ⟨middle, followsFirst, followsLater⟩ := follows.append_inv
    have passed := here.passed sound followsFirst
    obtain ⟨-, distinct, named⟩ := soundGroups group List.mem_cons_self
    have all := passed.created_eq only sound distinct within
    have soundly : (record snapshot created).Sound := record_sound sound fun table made =>
      named table (changedTables_subset snapshot group (all ▸ made))
    rw [failedSteps_append, ← List.append_assoc]
    refine ih followsLater
      (fun other inside => soundGroups other (List.mem_cons_of_mem _ inside)) soundly
      (passed.within sound distinct within) found ?_
    by_cases again : name ∈ MigrationReport.created ⟨later⟩
    · exact .inl again
    · have recorded := (rest.get?_uncreated again).symm.trans found
      refine .inr ⟨recorded, ?_⟩
      rcases get?_record_cases recorded with ⟨made, -⟩ | ⟨outside, held⟩
      · have settles := passed.settles_created sound distinct within.closed table made
        exact settles.mono (List.subset_append_right _ _)
      · rw [created_append, here.views.1, List.mem_append, or_assoc] at settled
        have before := ((settled.resolve_left outside).resolve_left again).2
        obtain rfl := sound.keyed name table held
        exact passed.settles_other sound distinct within.closed held (all ▸ outside) before

end Run

/-! ### Two migrations -/

/-- The addition of a key failed in the second of two migrations, or it failed in the first one, and
the second did not create its holder. -/
def Lost (first second : MigrationReport) (held : HeldKey) : Prop :=
  held.createStep ∈ second.failures.map StepFailure.step ∨
    (held.createStep ∈ first.failures.map StepFailure.step ∧ held.holder ∉ second.created)

/-- A catalog and a snapshot as two migrations of the same tables leave them, the second of which makes
good what went wrong in the first. -/
structure Repaired (snapshot : Snapshot) (groups : List TableGroup) (first : MigrationReport)
    (middle : Snapshot) (second : MigrationReport) (final : Snapshot) (last : Catalog) : Prop where
  /-- The second migration creates each name that a declaration still changes. -/
  retried : ∀ name, name ∈ second.created ↔ name ∈ diff middle groups
  /-- Of each declared name the last table is recorded, and nothing else has changed. -/
  declared : Declares snapshot final groups.flatten
  /-- Every declared table is there. -/
  present : ∀ table ∈ groups.flatten, table.name ∈ last.tables
  /-- The keys of a last table are there, but for those that are lost. -/
  declaredKeys : ∀ table, LastOf groups.flatten table → ∀ held ∈ table.heldKeys,
    held.constraint ∈ last.constraints ∨ Lost first second held
  /-- The tables are the recorded ones. -/
  tables : ∀ name, name ∈ last.tables ↔ final.contains name
  /-- All constraints are recorded. -/
  constraints : ∀ constraint ∈ last.constraints, final.Records constraint
  /-- The recorded keys are there, but for those that are lost. -/
  keys : ∀ name table, final.get? name = some table → ∀ held ∈ table.heldKeys,
    held.constraint ∈ last.constraints ∨ Lost first second held
  /-- If neither migration failed to add a key, tables and constraints are the recorded ones. -/
  agrees : (∀ step ∈ (first.failures ++ second.failures).map StepFailure.step,
    step.kind ≠ .createForeignKey) → last.Agrees final

/-- **Behind the second of two runs, in which only the rules refuse, a recorded key is there or lost:** what
failed earlier is made good on every table that is created anew. -/
theorem RunTrace.holds_or_lost {plain : Prop} (only : plain) {middle final : Snapshot}
    {groups : List TableGroup} {first second : List MigrationEvent} {between last : Catalog}
    (trace : RunTrace middle groups second final) (follows : Follows plain between second last)
    (soundGroups : ∀ group ∈ groups, SoundGroup group)
    (accounts : Accounts between middle (failedSteps first) groups.flatten)
    {name : String} {table : Table} (found : final.get? name = some table)
    {held : HeldKey} (inside : held ∈ table.heldKeys) :
    held.constraint ∈ last.constraints ∨ Lost ⟨first⟩ ⟨second⟩ held := by
  have settled := trace.accounts_plain only follows soundGroups accounts
  have holder := holder_of_mem_heldKeys inside
  rw [settled.sound.keyed name table found] at holder
  by_cases made : name ∈ MigrationReport.created ⟨second⟩
  · have anew : last.Settles ([] ++ failedSteps second) table :=
      trace.settles_created only follows soundGroups accounts.sound accounts.within found (.inl made)
    exact (anew.2 held inside).imp_right .inl
  · refine ((settled.settles found).2 held inside).imp_right fun lost => ?_
    exact (List.mem_append.1 lost).symm.imp_right fun earlier => ⟨earlier, holder ▸ made⟩

/-- **Behind a disturbed and an undisturbed migration, the declared tables are recorded and there, the
tables are the recorded ones, and so are the constraints but for those that are lost.** -/
theorem migrate_twice (catalog : Catalog) (snapshot : Snapshot) (groups : List TableGroup)
    (refusals : Catalog.Refusals) (sound : snapshot.Sound) (agrees : catalog.Agrees snapshot)
    (soundGroups : ∀ group ∈ groups, SoundGroup group) :
    ∃ first middle firstCalls second final secondCalls,
      migrate (some (catalog.database refusals)) groups (.memory snapshot) [] =
        ((.ok first, .memory middle), firstCalls) ∧
      migrate (some ((catalog.after refusals firstCalls).database .none)) groups (.memory middle) [] =
        ((.ok second, .memory final), secondCalls) ∧
      Repaired snapshot groups first middle second final
        ((catalog.after refusals firstCalls).after .none secondCalls) := by
  have valid := SoundGroup.validAll soundGroups
  have start : Accounts catalog snapshot [] [] :=
    ⟨sound, agrees.within, fun name table found => .inl (agrees.settles sound found)⟩
  obtain ⟨first, middle, firstCalls, ranFirst, firstTrace, firstLog⟩ :=
    migrate_memory (catalog.database refusals) snapshot [] valid
  have between := firstTrace.accounts firstLog.follows soundGroups start
  obtain ⟨second, final, secondCalls, ranSecond, secondTrace, secondLog⟩ :=
    migrate_memory ((catalog.after refusals firstCalls).database .none) middle [] valid
  have settled := secondTrace.accounts_plain (fun _ _ => rfl) secondLog.follows soundGroups between
  obtain ⟨declares, retried⟩ := secondTrace.fulfils (fun _ _ => rfl) secondLog.follows between.sound
    between.within soundGroups
  have keys : ∀ name table, final.get? name = some table → ∀ held ∈ table.heldKeys,
      held.constraint ∈ ((catalog.after refusals firstCalls).after .none secondCalls).constraints ∨
        Lost ⟨first⟩ ⟨second⟩ held := fun name table found held inside =>
    secondTrace.holds_or_lost (fun _ _ => rfl) secondLog.follows soundGroups between found inside
  refine ⟨⟨first⟩, middle, firstCalls, ⟨second⟩, final, secondCalls, ranFirst, ranSecond, ?_⟩
  exact {
    retried := retried
    declared := ⟨declares.last, fun name other =>
      (declares.others name other).trans (firstTrace.get?_undeclared other)⟩
    present := fun table inside => (settled.mem_tables_iff table.name).2 (declares.contains inside)
    declaredKeys := fun table last held inside => by
      obtain ⟨recorded, found, same⟩ := (declares.last table last).heldKeys
      exact keys table.name recorded found held (same ▸ inside)
    tables := settled.mem_tables_iff
    constraints := settled.within.constraints
    keys := keys
    agrees := fun others => by
      refine settled.agrees fun step failed => others step ?_
      rw [List.map_append]
      exact failed }

/-! ### A table that is created on the second try -/

/-- The table of songs with another column. -/
def titledSongs : Table :=
  ⟨"songs", songs.columns ++ [{ name := "title", type := .text }]⟩

/-- A database that cannot create tables. -/
def creationsRefused : Catalog.Refusals := fun _ call =>
  match Catalog.command? call with
  | some (.createTable _) => some "disk full"
  | _ => none

theorem titledSongs_soundGroup : SoundGroup [authors, titledSongs] where
  valid table inside := by
    simp only [List.mem_cons, List.not_mem_nil, or_false] at inside
    rcases inside with rfl | rfl <;> rfl
  distinct := by decide
  named table inside := by
    simp only [List.mem_cons, List.not_mem_nil, or_false] at inside
    rcases inside with rfl | rfl <;> decide

/-- A migration that drops the table of songs and cannot create it. -/
def interrupted : (Except RunError MigrationReport × Store) × History :=
  migrate (some (music.database creationsRefused)) [[authors, titledSongs]] (.memory musicSnapshot) []

/-- The migration behind it, in which nothing is refused but by the rules. -/
def resumed : (Except RunError MigrationReport × Store) × History :=
  migrate (some ((music.after creationsRefused interrupted.2).database .none))
    [[authors, titledSongs]] interrupted.1.2 []

theorem interrupted_outcome :
    interrupted.1.1.toOption.map MigrationReport.created = some [] ∧
      interrupted.1.1.toOption.map (fun report => report.failures.map (·.step.kind)) =
        some [.createTable] ∧
      music.after creationsRefused interrupted.2 = ⟨{"authors"}, ∅⟩ := by
  decide +kernel

theorem resumed_outcome :
    resumed.1.1.toOption.map MigrationReport.created = some ["songs"] ∧
      resumed.1.1.toOption.map (fun report => report.failures.map (·.step.kind)) =
        some [.dropForeignKey, .dropTable] ∧
      (music.after creationsRefused interrupted.2).after .none resumed.2 =
        ⟨{"songs", "authors"}, {⟨"songs", "by", "authors"⟩}⟩ := by
  decide +kernel

/-- The table of songs is dropped with its key and cannot be created; the next migration creates it and
adds the key, so that the database agrees with what is recorded. -/
theorem migrate_twice_music :
    musicSnapshot.Sound ∧ music.Agrees musicSnapshot ∧ SoundGroup [authors, titledSongs] ∧
    ∃ first middle firstCalls second final secondCalls,
      migrate (some (music.database creationsRefused)) [[authors, titledSongs]]
        (.memory musicSnapshot) [] = ((.ok first, .memory middle), firstCalls) ∧
      migrate (some ((music.after creationsRefused firstCalls).database .none))
        [[authors, titledSongs]] (.memory middle) [] = ((.ok second, .memory final), secondCalls) ∧
      let last := (music.after creationsRefused firstCalls).after .none secondCalls
      Repaired musicSnapshot [[authors, titledSongs]] first middle second final last ∧
      (first.created = [] ∧ first.failures.map (·.step.kind) = [.createTable] ∧
        music.after creationsRefused firstCalls = ⟨{"authors"}, ∅⟩) ∧
      (second.created = ["songs"] ∧
        second.failures.map (·.step.kind) = [.dropForeignKey, .dropTable] ∧
        last = ⟨{"songs", "authors"}, {⟨"songs", "by", "authors"⟩}⟩) ∧
      last.Agrees final := by
  obtain ⟨first, middle, firstCalls, second, final, secondCalls, ranFirst, ranSecond, repaired⟩ :=
    migrate_twice music musicSnapshot [[authors, titledSongs]] creationsRefused musicSnapshot_sound
      music_agrees (List.forall_mem_singleton.2 titledSongs_soundGroup)
  have computedFirst := interrupted_outcome
  have computedSecond := resumed_outcome
  rw [resumed, interrupted, ranFirst, ranSecond] at computedSecond
  rw [interrupted, ranFirst] at computedFirst
  have refused : first.failures.map (·.step.kind) = [.createTable] :=
    Option.some.inj computedFirst.2.1
  have failed : second.failures.map (·.step.kind) = [.dropForeignKey, .dropTable] :=
    Option.some.inj computedSecond.2.1
  refine ⟨musicSnapshot_sound, music_agrees, titledSongs_soundGroup, first, middle, firstCalls, second,
    final, secondCalls, ranFirst, ranSecond, repaired,
    ⟨Option.some.inj computedFirst.1, refused, computedFirst.2.2⟩,
    ⟨Option.some.inj computedSecond.1, failed, computedSecond.2.2⟩, ?_⟩
  refine repaired.agrees fun step inside same => ?_
  obtain ⟨failure, among, rfl⟩ := List.mem_map.1 inside
  have kinds : failure.step.kind ∈ (first.failures ++ second.failures).map (·.step.kind) :=
    List.mem_map_of_mem among
  rw [List.map_append, refused, failed, same] at kinds
  exact absurd kinds (by decide)

/-! ### A key that cannot be added -/

/-- A database that cannot add keys. -/
def additionsRefused : Catalog.Refusals := fun _ call =>
  match Catalog.command? call with
  | some (.addConstraint _) => some "locked"
  | _ => none

/-- A migration in which no key can be added: the table of authors is rebuilt. -/
def disturbed : (Except RunError MigrationReport × Store) × History :=
  migrate (some (music.database additionsRefused)) [[namedAuthors, songs]] (.memory musicSnapshot) []

/-- The migration behind it, in which nothing is refused but by the rules. -/
def undisturbed : (Except RunError MigrationReport × Store) × History :=
  migrate (some ((music.after additionsRefused disturbed.2).database .none))
    [[namedAuthors, songs]] disturbed.1.2 []

theorem undisturbed_outcome :
    music.after additionsRefused disturbed.2 = ⟨{"authors", "songs"}, ∅⟩ ∧ undisturbed.2 = [] ∧
      (undisturbed.1.2.load.get? "songs").map Table.heldKeys = some songs.heldKeys := by
  decide +kernel

/-- **A key whose addition was refused may be missing for good:** it is recorded, but its holder is not
changed, so no later migration makes a call. -/
theorem refused_key_stays_missing :
    musicSnapshot.Sound ∧ music.Agrees musicSnapshot ∧ SoundGroup [namedAuthors, songs] ∧
    Available (fun name => musicSnapshot.contains name) [[namedAuthors, songs]] ∧
    undisturbed.2 = [] ∧
    undisturbed.1.2.load.Records ⟨"songs", "by", "authors"⟩ ∧
    ⟨"songs", "by", "authors"⟩ ∉
      ((music.after additionsRefused disturbed.2).after .none undisturbed.2).constraints := by
  obtain ⟨left, idle, recorded⟩ := undisturbed_outcome
  refine ⟨musicSnapshot_sound, music_agrees, music_soundGroup, music_available, idle, ?_, ?_⟩
  · obtain ⟨table, found, keys⟩ := Option.map_eq_some_iff.1 recorded
    refine ⟨table, found, ?_⟩
    rw [keys]
    exact ⟨_, List.mem_singleton.2 rfl, rfl⟩
  · rw [idle, left]
    exact Finset.notMem_empty _

end SqlCraft.Migration
