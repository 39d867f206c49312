/-
**Passage: what a group does to the database.**

Inside a group the database and the snapshot part: keys are missing, tables are missing. Behind it
every table and every constraint of the database is recorded again, whatever was refused. If commands
are only refused by the rules, all changed tables are created, and if the database agreed with the
snapshot, nothing is refused.

* `Catalog.Agrees`, `Catalog.Within` — agreement, and the half of it that refusals cannot break;
* `Catalog.Settles` — a recorded table is there with its keys, up to additions that failed;
* `Passed`, `GroupTrace.passed` — the three phases of a group as a catalog goes through them;
* `Passed.within`, `Passed.settles_created`, `Passed.settles_other` — what a group leaves behind;
* `Passed.created_eq`, `Passed.failed_eq`, `Passed.agrees` — if only the rules refuse.
-/

import SqlCraft.Proofs.Migration.Phases

namespace SqlCraft

open Migration

namespace Catalog

/-- The tables and the constraints are the recorded ones, and constraints have their tables. -/
structure Agrees (catalog : Catalog) (snapshot : Snapshot) : Prop where
  tables : ∀ name, name ∈ catalog.tables ↔ snapshot.contains name
  constraints : ∀ constraint, constraint ∈ catalog.constraints ↔ snapshot.Records constraint
  closed : catalog.Closed

/-- All tables and constraints are recorded, and constraints have their tables. -/
structure Within (catalog : Catalog) (snapshot : Snapshot) : Prop where
  tables : ∀ name ∈ catalog.tables, snapshot.contains name
  constraints : ∀ constraint ∈ catalog.constraints, snapshot.Records constraint
  closed : catalog.Closed

/-- A table is there with its constraints, but for those that failed to be added. -/
def Settles (catalog : Catalog) (failed : List Step) (table : Table) : Prop :=
  table.name ∈ catalog.tables ∧ ∀ held ∈ table.heldKeys,
    held.constraint ∈ catalog.constraints ∨ held.createStep ∈ failed

theorem Agrees.within {catalog : Catalog} {snapshot : Snapshot} (agrees : catalog.Agrees snapshot) :
    catalog.Within snapshot :=
  ⟨fun name => (agrees.tables name).1, fun constraint => (agrees.constraints constraint).1,
    agrees.closed⟩

theorem Agrees.settles {catalog : Catalog} {snapshot : Snapshot} (agrees : catalog.Agrees snapshot)
    (sound : snapshot.Sound) {name : String} {table : Table}
    (recorded : snapshot.get? name = some table) : catalog.Settles [] table := by
  have same := sound.keyed name table recorded
  constructor
  · rw [agrees.tables, Snapshot.contains, same, recorded]
    rfl
  · intro held inside
    exact .inl ((agrees.constraints _).2 (records_of_mem sound recorded inside))

/-- A database agrees with a snapshot if it is within it and every recorded table is settled. -/
theorem Within.agrees {catalog : Catalog} {snapshot : Snapshot} (within : catalog.Within snapshot)
    (sound : snapshot.Sound)
    (settled : ∀ name table, snapshot.get? name = some table → catalog.Settles [] table) :
    catalog.Agrees snapshot where
  tables name := by
    refine ⟨within.tables name, fun recorded => ?_⟩
    obtain ⟨table, found⟩ := Option.isSome_iff_exists.1 recorded
    rw [← sound.keyed name table found]
    exact (settled name table found).1
  constraints constraint := by
    refine ⟨within.constraints constraint, ?_⟩
    rintro ⟨table, found, held, inside, rfl⟩
    exact ((settled _ table found).2 held inside).resolve_right List.not_mem_nil
  closed := within.closed

theorem Settles.mono {catalog : Catalog} {failed more : List Step} {table : Table}
    (settles : catalog.Settles failed table) (subset : failed ⊆ more) :
    catalog.Settles more table :=
  ⟨settles.1, fun held inside => (settles.2 held inside).imp id (subset ·)⟩

end Catalog

namespace Migration

/-! ### Through a group -/

/-- Steps one after the other are steps for all items. -/
theorem Performed.append {α : Type} {step : α → Step} {first second firstKept secondKept : List α}
    {early late : List MigrationEvent} (left : Performed step first early firstKept)
    (right : Performed step second late secondKept) :
    Performed step (first ++ second) (early ++ late) (firstKept ++ secondKept) := by
  induction left with
  | nil => exact right
  | granted item _ ih => exact .granted item ih
  | refused item cause _ ih => exact .refused item cause ih

/-- A catalog goes through the phases of a group: keys are dropped, tables are dropped and created,
and keys are added. -/
inductive Passed (plain : Prop) (snapshot : Snapshot) (group : TableGroup) (created : List Table) :
    Catalog → List Step → Catalog → Prop where
  | phases {before unlocked rebuilt after : Catalog}
      {dropping rebuilding adding : List MigrationEvent} {unlinked detached attached : List HeldKey}
      (drops : Performed HeldKey.dropStep (ownKeys snapshot (changedTables snapshot group) ++
        inboundKeys snapshot (changedTables snapshot group)) dropping (unlinked ++ detached))
      (own : unlinked.Sublist (ownKeys snapshot (changedTables snapshot group)))
      (inbound : detached.Sublist (inboundKeys snapshot (changedTables snapshot group)))
      (dropped : Follows plain before dropping unlocked)
      (rebuilds : Rebuilt snapshot (changedTables snapshot group) rebuilding created)
      (replaced : Follows plain unlocked rebuilding rebuilt)
      (adds : Performed HeldKey.createStep (created.flatMap Table.heldKeys ++ detached) adding
        attached)
      (added : Follows plain rebuilt adding after) :
      Passed plain snapshot group created before
        (failedSteps dropping ++ failedSteps rebuilding ++ failedSteps adding) after

/-- A catalog that follows a run over a group goes through the phases. -/
theorem GroupTrace.passed {plain : Prop} {snapshot : Snapshot} {group : TableGroup}
    {created : List Table} {events : List MigrationEvent} {before after : Catalog}
    (trace : GroupTrace snapshot group events created) (sound : snapshot.Sound)
    (follows : Follows plain before events after) :
    Passed plain snapshot group created before (failedSteps events) after := by
  cases trace with
  | @phases unlinking detaching rebuilding linking attaching _ _ _ detached _
      unlinks detaches rebuilds links attaches =>
    rw [ownKeySteps_eq sound.keyed] at unlinks
    rw [linkSteps_eq] at links
    obtain ⟨unlinked, unlinks⟩ := unlinks.of_map
    obtain ⟨linked, links⟩ := links.of_map
    obtain ⟨attached, attaches⟩ := attaches.of_map
    rw [List.append_assoc _ linking attaching] at follows ⊢
    obtain ⟨last, followsAll, quiet⟩ := follows.append_inv
    obtain ⟨first, start, followsPhases⟩ := followsAll.append_inv
    obtain ⟨rebuilt, followsRebuilt, added⟩ := followsPhases.append_inv
    obtain ⟨unlocked, dropped, replaced⟩ := followsRebuilt.append_inv
    obtain rfl := start.keptTables_eq
    obtain rfl := quiet.created_eq
    have passed := Passed.phases (unlinks.append detaches) unlinks.kept_subset
      detaches.kept_subset dropped rebuilds replaced (links.append attaches) added
    simpa [List.append_assoc] using passed

/-- A table of a group is changed, or recorded. -/
theorem changed_or_recorded {snapshot : Snapshot} {group : TableGroup} {table : Table}
    (inside : table ∈ group) : table.name ∈ (changedTables snapshot group).map Table.name ∨
      snapshot.contains table.name := by
  by_cases changed : snapshot.isChanged table
  · exact .inl (List.mem_map_of_mem (List.mem_filter.2 ⟨inside, changed⟩))
  · exact .inr (Snapshot.contains_of_unchanged (Bool.eq_false_iff.2 changed))

section Passage

variable {plain : Prop} {snapshot : Snapshot} {group : TableGroup} {created : List Table}
  {before after : Catalog} {failed : List Step}

/-- Behind a group, only created tables are recorded anew. -/
theorem record_sound (sound : snapshot.Sound) (named : ∀ table ∈ created, table.constraintNames.Nodup) :
    (record snapshot created).Sound where
  keyed name table found := by
    rcases get?_record_cases found with ⟨-, same⟩ | ⟨-, earlier⟩
    · exact same
    · exact sound.keyed name table earlier
  named name table found := by
    rcases get?_record_cases found with ⟨inside, -⟩ | ⟨-, earlier⟩
    · exact named table inside
    · exact sound.named name table earlier

/-- What is held by a table that is not created is recorded as before. -/
theorem records_record {constraint : Constraint} (records : snapshot.Records constraint)
    (outside : constraint.holder ∉ created.map Table.name) :
    (record snapshot created).Records constraint := by
  obtain ⟨table, found, held, inside, same⟩ := records
  exact ⟨table, (get?_record_of_not_mem snapshot outside).trans found, held, inside, same⟩

/-- **Behind a group, all tables and constraints are recorded, whatever was refused.** -/
theorem Passed.within (passed : Passed plain snapshot group created before failed after)
    (sound : snapshot.Sound) (distinct : (group.map Table.name).Nodup)
    (within : before.Within snapshot) : after.Within (record snapshot created) := by
  cases passed with
  | @phases unlocked rebuilt _ dropping rebuilding adding unlinked detached attached
      drops own inbound dropped rebuilds replaced adds added =>
    have among := changedTables_nodup snapshot distinct
    have closed := dropped.closed within.closed
    obtain ⟨sameTables, remaining⟩ := drops.drops dropped
    obtain ⟨replaces, -⟩ := rebuilds.replaces sound replaced closed among
    obtain ⟨finalTables, present⟩ := adds.adds added
    refine ⟨fun name inside => ?_, fun constraint inside => ?_, added.closed (replaced.closed closed)⟩
    · rw [finalTables] at inside
      rw [contains_record]
      rcases replaces.earlier name inside with old | new
      · rw [sameTables] at old
        exact .inr (within.tables name old)
      · exact .inl new
    · rcases (present constraint).1 inside with old | ⟨held, kept, rfl⟩
      · have recorded := within.constraints constraint
          ((remaining constraint).1 (replaces.fewer old)).1
        exact records_record recorded (replaces.cleared constraint old)
      · rcases List.mem_append.1 (adds.kept_subset.subset kept) with new | back
        · obtain ⟨table, made, inside⟩ := List.mem_flatMap.1 new
          have names : (created.map Table.name).Nodup :=
            among.sublist (rebuilds.created_subset.map _)
          refine ⟨table, ?_, held, inside, rfl⟩
          show (record snapshot created).get? held.holder = some table
          rw [holder_of_mem_heldKeys inside]
          exact get?_record_of_mem snapshot names made
        · obtain ⟨table, found, outside, inside, -, -⟩ :=
            (mem_inboundKeys_iff sound).1 (inbound.subset back)
          refine records_record (records_of_mem sound found inside) ?_
          show held.holder ∉ created.map Table.name
          rw [holder_of_mem_heldKeys inside]
          exact fun made => outside ((rebuilds.created_subset.map _).subset made)

/-- Created tables are settled. -/
theorem Passed.settles_created (passed : Passed plain snapshot group created before failed after)
    (sound : snapshot.Sound) (distinct : (group.map Table.name).Nodup) (closed : before.Closed) :
    ∀ table ∈ created, after.Settles failed table := by
  intro table made
  cases passed with
  | @phases unlocked rebuilt _ dropping rebuilding adding unlinked detached attached
      drops own inbound dropped rebuilds replaced adds added =>
    have among := changedTables_nodup snapshot distinct
    obtain ⟨replaces, -⟩ := rebuilds.replaces sound replaced (dropped.closed closed) among
    obtain ⟨finalTables, present⟩ := adds.adds added
    constructor
    · rw [finalTables]
      exact replaces.present table.name (List.mem_map_of_mem made)
    · intro held inside
      have item : held ∈ created.flatMap Table.heldKeys ++ detached :=
        List.mem_append_left _ (List.mem_flatMap.2 ⟨table, made, inside⟩)
      rcases adds.kept_or_failed held item with kept | lost
      · exact .inl ((present _).2 (.inr ⟨held, kept, rfl⟩))
      · exact .inr (List.mem_append_right _ lost)

/-- **A table that the group does not change stays settled:** a key of it that was dropped is added
again, or that failed. -/
theorem Passed.settles_other (passed : Passed plain snapshot group created before failed after)
    (sound : snapshot.Sound) (distinct : (group.map Table.name).Nodup) (closed : before.Closed)
    {table : Table} (recorded : snapshot.get? table.name = some table)
    (outside : table.name ∉ (changedTables snapshot group).map Table.name) {earlier : List Step}
    (settles : before.Settles earlier table) : after.Settles (earlier ++ failed) table := by
  cases passed with
  | @phases unlocked rebuilt _ dropping rebuilding adding unlinked detached attached
      drops own inbound dropped rebuilds replaced adds added =>
    have among := changedTables_nodup snapshot distinct
    obtain ⟨sameTables, remaining⟩ := drops.drops dropped
    obtain ⟨replaces, -⟩ := rebuilds.replaces sound replaced (dropped.closed closed) among
    obtain ⟨finalTables, present⟩ := adds.adds added
    constructor
    · rw [finalTables, replaces.others table.name outside, sameTables]
      exact settles.1
    · intro held inside
      have holder := holder_of_mem_heldKeys inside
      rcases settles.2 held inside with there | lost
      · by_cases left : held ∈ detached
        · rcases adds.kept_or_failed held (List.mem_append_right _ left) with kept | lost
          · exact .inl ((present _).2 (.inr ⟨held, kept, rfl⟩))
          · exact .inr (List.mem_append_right _ (List.mem_append_right _ lost))
        · have untouched : held.constraint ∈ unlocked.constraints := by
            refine (remaining _).2 ⟨there, fun other kept same => ?_⟩
            have holders : held.holder = other.holder := (Prod.mk.inj same).1
            rcases List.mem_append.1 kept with mine | beside
            · obtain ⟨changed, declared, previous, found, within⟩ := mem_ownKeys.1 (own.subset mine)
              rw [holder, holder_of_mem_heldKeys within, sound.keyed _ previous found] at holders
              exact outside (holders ▸ List.mem_map_of_mem declared)
            · obtain ⟨owner, found, -, within, -, -⟩ :=
                (mem_inboundKeys_iff sound).1 (inbound.subset beside)
              rw [holder, holder_of_mem_heldKeys within] at holders
              rw [← holders, recorded] at found
              obtain rfl := Option.some.inj found
              have named := sound.named table.name table recorded
              exact left (heldKeys_inj named inside within same ▸ beside)
          have outsideHolder : held.constraint.holder ∉
              (changedTables snapshot group).map Table.name := by
            show held.holder ∉ _
            rw [holder]
            exact outside
          exact .inl ((present _).2 (.inl (replaces.kept _ untouched outsideHolder)))
      · exact .inr (List.mem_append_left _ lost)

/-- If commands are only refused by the rules, no other table refers to a changed one when the tables
of a group are dropped. -/
theorem unlocked_of_plain (only : plain) {dropping : List MigrationEvent} {unlocked : Catalog}
    {kept : List HeldKey} (sound : snapshot.Sound)
    (drops : Performed HeldKey.dropStep (ownKeys snapshot (changedTables snapshot group) ++
      inboundKeys snapshot (changedTables snapshot group)) dropping kept)
    (dropped : Follows plain before dropping unlocked) (within : before.Within snapshot) :
    ∀ constraint ∈ unlocked.constraints,
      constraint.target ∉ (changedTables snapshot group).map Table.name := by
  intro constraint inside targeted
  have there := (((drops.drops dropped).2 constraint).1 inside).1
  obtain ⟨table, found, held, mine, rfl⟩ := within.constraints constraint there
  have holder : held.holder = table.name := holder_of_mem_heldKeys mine
  have recorded : snapshot.get? held.holder = some table := found
  refine drops.drops_plain only dropped held ?_ held.constraint inside rfl
  by_cases changed : held.holder ∈ (changedTables snapshot group).map Table.name
  · obtain ⟨declared, among, same⟩ := List.mem_map.1 changed
    rw [← same] at recorded
    exact List.mem_append_left _ (mem_ownKeys.2 ⟨declared, among, table, recorded, mine⟩)
  · rw [holder] at recorded changed
    have target := within.tables _ (within.closed held.constraint there).2
    exact List.mem_append_right _
      ((mem_inboundKeys_iff sound).2 ⟨table, recorded, changed, mine, targeted, target⟩)

/-- If commands are only refused by the rules, all changed tables are created. -/
theorem Passed.created_eq (only : plain)
    (passed : Passed plain snapshot group created before failed after)
    (sound : snapshot.Sound) (distinct : (group.map Table.name).Nodup)
    (within : before.Within snapshot) : created = changedTables snapshot group := by
  cases passed with
  | phases drops own inbound dropped rebuilds replaced adds added =>
    have among := changedTables_nodup snapshot distinct
    have alone := unlocked_of_plain only sound drops dropped within
    have rebuilt := rebuilds.replaces sound replaced (dropped.closed within.closed) among
    exact (rebuilt.2 only fun constraint inside target =>
      absurd target (alone constraint inside)).1

/-- If the database agrees with the snapshot, no key that is dropped for a group is missing. -/
theorem drops_agree (only : plain) {dropping : List MigrationEvent} {unlocked : Catalog}
    {kept : List HeldKey} (sound : snapshot.Sound) (distinct : (group.map Table.name).Nodup)
    (drops : Performed HeldKey.dropStep (ownKeys snapshot (changedTables snapshot group) ++
      inboundKeys snapshot (changedTables snapshot group)) dropping kept)
    (dropped : Follows plain before dropping unlocked) (agrees : before.Agrees snapshot) :
    failedSteps dropping = [] := by
  have keys := dropped_nodup sound (changedTables_nodup snapshot distinct)
  refine (drops.drops_all only dropped keys fun held inside => (agrees.constraints _).2 ?_).2
  rcases List.mem_append.1 inside with mine | beside
  · obtain ⟨_, _, previous, found, within⟩ := mem_ownKeys.1 mine
    exact records_of_mem sound found within
  · obtain ⟨owner, found, -, within, -, -⟩ := (mem_inboundKeys_iff sound).1 beside
    exact records_of_mem sound found within

/-- If the changed and the recorded tables are there, and the keys are new, all keys of a group can be
added. -/
theorem adds_find_targets (only : plain) {adding : List MigrationEvent} {rebuilt : Catalog}
    {detached attached : List HeldKey} (sound : snapshot.Sound)
    (distinct : (group.map Table.name).Nodup)
    (named : ∀ table ∈ group, table.constraintNames.Nodup)
    (adds : Performed HeldKey.createStep
      ((changedTables snapshot group).flatMap Table.heldKeys ++ detached) adding attached)
    (added : Follows plain rebuilt adding after)
    (inbound : detached.Sublist (inboundKeys snapshot (changedTables snapshot group)))
    (there : ∀ name, name ∈ (changedTables snapshot group).map Table.name ∨
      snapshot.contains name → name ∈ rebuilt.tables)
    (cleared : ∀ constraint ∈ rebuilt.constraints,
      constraint.holder ∉ (changedTables snapshot group).map Table.name)
    (left : ∀ held ∈ detached, ∀ constraint ∈ rebuilt.constraints,
      constraint.key ≠ held.constraint.key)
    (available : ∀ table ∈ group, ∀ held ∈ table.heldKeys,
      held.key.table ∈ group.map Table.name ∨ snapshot.contains held.key.table) :
    failedSteps adding = [] := by
  have keys := beside_nodup sound (changedTables_nodup snapshot distinct)
    (fun table inside => named table (changedTables_subset snapshot group inside))
    (List.Subset.refl _)
  have different := keys.sublist (((List.Sublist.refl _).append inbound).map _)
  refine adds.adds_all only added different (fun held inside => ?_) fun held inside => ?_
  · rcases List.mem_append.1 inside with new | back
    · obtain ⟨table, made, within⟩ := List.mem_flatMap.1 new
      have declared := changedTables_subset snapshot group made
      constructor
      · show held.holder ∈ rebuilt.tables
        rw [holder_of_mem_heldKeys within]
        exact there table.name (.inl (List.mem_map_of_mem made))
      · refine there held.key.table ?_
        rcases available table declared held within with beside | recorded
        · obtain ⟨target, inGroup, same⟩ := List.mem_map.1 beside
          rw [← same]
          exact changed_or_recorded inGroup
        · exact .inr recorded
    · obtain ⟨owner, found, -, within, target, -⟩ :=
        (mem_inboundKeys_iff sound).1 (inbound.subset back)
      constructor
      · show held.holder ∈ rebuilt.tables
        rw [holder_of_mem_heldKeys within]
        refine there owner.name (.inr ?_)
        rw [Snapshot.contains, found]
        rfl
      · exact there held.key.table (.inl target)
  · rcases List.mem_append.1 inside with new | back
    · obtain ⟨table, made, within⟩ := List.mem_flatMap.1 new
      intro constraint old same
      have holders : constraint.holder = held.holder := (Prod.mk.inj same).1
      rw [holder_of_mem_heldKeys within] at holders
      exact cleared constraint old (holders ▸ List.mem_map_of_mem made)
    · exact left held back

/-- **If commands are only refused by the rules, and the database agreed with the snapshot, nothing is
refused** for a group whose keys find their targets. -/
theorem Passed.failed_eq (only : plain)
    (passed : Passed plain snapshot group created before failed after)
    (sound : snapshot.Sound) (distinct : (group.map Table.name).Nodup)
    (named : ∀ table ∈ group, table.constraintNames.Nodup) (agrees : before.Agrees snapshot)
    (available : ∀ table ∈ group, ∀ held ∈ table.heldKeys,
      held.key.table ∈ group.map Table.name ∨ snapshot.contains held.key.table) : failed = [] := by
  have all := passed.created_eq only sound distinct agrees.within
  subst all
  cases passed with
  | @phases unlocked rebuilt _ dropping rebuilding adding unlinked detached attached
      drops own inbound dropped rebuilds replaced adds added =>
    obtain ⟨sameTables, remaining⟩ := drops.drops dropped
    have alone := unlocked_of_plain only sound drops dropped agrees.within
    obtain ⟨replaces, plainly⟩ := rebuilds.replaces sound replaced (dropped.closed agrees.closed)
      (changedTables_nodup snapshot distinct)
    have unreplaced : failedSteps rebuilding = [] := by
      refine (plainly only fun constraint inside target =>
        absurd target (alone constraint inside)).2 fun table _ recorded => ?_
      rw [sameTables]
      exact (agrees.tables table.name).2 recorded
    have there : ∀ name, name ∈ (changedTables snapshot group).map Table.name ∨
        snapshot.contains name → name ∈ rebuilt.tables := by
      intro name known
      by_cases changed : name ∈ (changedTables snapshot group).map Table.name
      · exact replaces.present name changed
      · rw [replaces.others name changed, sameTables]
        exact (agrees.tables name).2 (known.resolve_left changed)
    have left : ∀ held ∈ detached, ∀ constraint ∈ rebuilt.constraints,
        constraint.key ≠ held.constraint.key := fun held back constraint old =>
      ((remaining constraint).1 (replaces.fewer old)).2 held (List.mem_append_right _ back)
    rw [drops_agree only sound distinct drops dropped agrees, unreplaced,
      adds_find_targets only sound distinct named adds added inbound there replaces.cleared left
        available]
    rfl

/-- A group leaves behind a sound snapshot that the database agrees with again. -/
theorem Passed.agrees (only : plain)
    (passed : Passed plain snapshot group created before failed after)
    (sound : snapshot.Sound) (distinct : (group.map Table.name).Nodup)
    (named : ∀ table ∈ group, table.constraintNames.Nodup) (agrees : before.Agrees snapshot)
    (none : failed = []) :
    (record snapshot created).Sound ∧ after.Agrees (record snapshot created) := by
  have all := passed.created_eq only sound distinct agrees.within
  have soundly : (record snapshot created).Sound := by
    refine record_sound sound fun table made => named table ?_
    rw [all] at made
    exact changedTables_subset snapshot group made
  refine ⟨soundly, (passed.within sound distinct agrees.within).agrees soundly ?_⟩
  intro name table found
  rw [← none]
  rcases get?_record_cases found with ⟨made, -⟩ | ⟨outside, earlier⟩
  · exact passed.settles_created sound distinct agrees.closed table made
  · have same := sound.keyed name table earlier
    rw [← same, all] at outside
    have recorded : snapshot.get? table.name = some table := same ▸ earlier
    exact passed.settles_other sound distinct agrees.closed recorded outside
      (agrees.settles sound earlier)

end Passage

end Migration

end SqlCraft
