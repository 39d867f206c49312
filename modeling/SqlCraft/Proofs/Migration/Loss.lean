/-
**Without its snapshot, a migration rebuilds a table only if nothing refers to it any more.**

A run that finds no snapshot knows of no constraint, so it drops none. A declared table that is there can
be dropped only when the tables that refer to it have been dropped themselves and have not got their keys
back, and that is so for the tables before it in its group. Every other table with a reference to it stays
as it is, and the run reports two failures for it. The keys are those that are declared in any case.

* `Catalog.Holds` — the declared tables, with the keys of all but some of them;
* `Catalog.Holds.allows_drop_iff`, `Catalog.Holds.recreate` — one table is dropped and created;
* `Follows.recreate`, `Rebuilt.recreates` — the tables of a group, one after another;
* `RunTrace.recreates` — the groups of a run;
* `RefersOnward`, `unreferenced_iff_refersOnward` — every reference goes to a table that is declared later;
* `lost_snapshot_rebuilds_iff` — all tables are rebuilt exactly if all references do so;
* `lost_snapshot_never_rebuilt` — otherwise not even by later runs.
-/

import SqlCraft.Proofs.Migration.Clean
import SqlCraft.Proofs.Migration.Reported

namespace SqlCraft

open Migration

/-- A foreign key of the table refers to the table of a name. -/
def Table.RefersTo (table : Table) (name : String) : Prop :=
  ∃ entry ∈ table.foreignKeys, entry.2.table = name

instance (table : Table) (name : String) : Decidable (table.RefersTo name) :=
  inferInstanceAs (Decidable (∃ entry ∈ table.foreignKeys, entry.2.table = name))

/-- The database holds the declared tables, with the constraints of all but the bare ones. -/
structure Catalog.Holds (catalog : Catalog) (declared : List Table) (bare : List String) : Prop where
  tables : ∀ name, name ∈ catalog.tables ↔ name ∈ declared.map Table.name
  constraints : ∀ constraint, constraint ∈ catalog.constraints ↔
    KeyOf declared constraint ∧ constraint.holder ∉ bare

namespace Catalog.Holds

variable {catalog : Catalog} {declared : List Table} {bare : List String}

/-- A table that is there can be dropped if the tables that refer to it are bare. -/
theorem allows_drop_iff (holds : catalog.Holds declared bare) {name : String}
    (there : name ∈ declared.map Table.name) (ifExists : Bool) :
    catalog.Allows (.dropTable name ifExists) ↔
      ∀ other ∈ declared, other.RefersTo name → other.name = name ∨ other.name ∈ bare := by
  constructor
  · rintro ⟨-, alone⟩ other inside ⟨entry, mine, target⟩
    by_cases free : other.name ∈ bare
    · exact .inr free
    · let held : HeldKey := ⟨other.name, entry.1, entry.2⟩
      have key : KeyOf declared held.constraint :=
        ⟨other, inside, held, List.mem_map.2 ⟨entry, mine, rfl⟩, rfl⟩
      exact .inl (alone held.constraint ((holds.constraints _).2 ⟨key, free⟩) target)
  · intro alone
    refine ⟨.inl ((holds.tables name).2 there), fun constraint present target => ?_⟩
    obtain ⟨⟨other, inside, held, mine, rfl⟩, free⟩ := (holds.constraints constraint).1 present
    have holder : held.holder = other.name := holder_of_mem_heldKeys mine
    obtain ⟨entry, among, rfl⟩ := List.mem_map.1 mine
    exact (alone other inside ⟨entry, among, target⟩).resolve_right free

/-- A table that was dropped and created is bare. -/
theorem recreate (holds : catalog.Holds declared bare) {name : String}
    (there : name ∈ declared.map Table.name) (ifExists : Bool) :
    ((catalog.apply (.dropTable name ifExists)).apply (.createTable name)).Holds declared
      (bare ++ [name]) where
  tables other := by
    rw [apply, apply, Finset.mem_insert, Finset.mem_erase, holds.tables]
    by_cases same : other = name
    · exact iff_of_true (.inl same) (same ▸ there)
    · simp [same]
  constraints constraint := by
    rw [apply, apply, Finset.mem_filter, holds.constraints, and_assoc, List.mem_append,
      List.mem_singleton, not_or]

end Catalog.Holds

namespace Migration

/-! ### The tables of a group -/

/-- When the turn of a table comes, the tables that refer to it are bare or were created before it. -/
def Unreferenced (declared : List Table) : List String → List Table → Prop
  | _, [] => True
  | bare, table :: rest =>
    (∀ other ∈ declared, other.RefersTo table.name → other.name = table.name ∨ other.name ∈ bare) ∧
      Unreferenced declared (bare ++ [table.name]) rest

/-- A declared table is dropped and created if only bare tables refer to it and it itself. Otherwise both
is refused, and it stays as it was. -/
theorem Follows.recreate {plain : Prop} (only : plain) {snapshot : Snapshot} (sound : snapshot.Sound)
    {declared : List Table} {bare : List String} {table : Table} (inside : table ∈ declared)
    {before after : Catalog} {dropped refusal : Option String} {events : List MigrationEvent}
    (holds : before.Holds declared bare)
    (follows : Follows plain before (.rebuilding table.name ::
      .attempted (dropStep snapshot table) dropped ::
        .attempted (createStep table) refusal :: events) after) :
    ∃ middle, Follows plain middle events after ∧
      middle.Holds declared (bare ++ if refusal.isNone then [table.name] else []) ∧
      (refusal = none ↔ ∀ other ∈ declared, other.RefersTo table.name →
        other.name = table.name ∨ other.name ∈ bare) := by
  have there : table.name ∈ declared.map Table.name := List.mem_map_of_mem inside
  have drops := read_dropStep sound table
  have creates := Command.read?_createSql table
  cases follows with
  | rebuilding _ follows =>
  cases follows with
  | granted read allowed follows =>
    obtain rfl := Option.some.inj (drops.symm.trans read)
    have free := (holds.allows_drop_iff there _).1 allowed
    cases follows with
    | granted read _ later =>
      obtain rfl := Option.some.inj (creates.symm.trans read)
      exact ⟨_, later, holds.recreate there _, iff_of_true rfl free⟩
    | refused denied _ =>
      -- the table was dropped, so it can be created
      exact absurd (Finset.notMem_erase _ _) (denied only _ creates)
  | refused denied follows =>
    have kept := mt (holds.allows_drop_iff there _).2 (denied only _ drops)
    cases follows with
    | granted read allowed _ =>
      -- the table could not be dropped, so it is there
      obtain rfl := Option.some.inj (creates.symm.trans read)
      exact absurd ((holds.tables _).2 there) allowed
    | refused _ later =>
      exact ⟨before, later, by simpa using holds, iff_of_false (Option.some_ne_none _) kept⟩

/-- **Tables that are there are created anew exactly if nothing refers to them when their turn comes.**
Those that are not keep their keys, and the others are bare behind the phase. -/
theorem Rebuilt.recreates {plain : Prop} (only : plain) {snapshot : Snapshot}
    {tables created declared : List Table} {events : List MigrationEvent} {before after : Catalog}
    {bare : List String} (sound : snapshot.Sound) (rebuilt : Rebuilt snapshot tables events created)
    (follows : Follows plain before events after) (holds : before.Holds declared bare)
    (among : tables ⊆ declared) :
    after.Holds declared (bare ++ created.map Table.name) ∧
      (created = tables ↔ Unreferenced declared bare tables) := by
  induction rebuilt generalizing before bare with
  | nil =>
    cases follows
    rw [List.map_nil, List.append_nil]
    exact ⟨holds, iff_of_true rfl trivial⟩
  | granted table dropped _ ih =>
    obtain ⟨inside, others⟩ := List.cons_subset.1 among
    obtain ⟨middle, later, bared, free⟩ := follows.recreate only sound inside holds
    obtain ⟨left, all⟩ := ih later bared others
    refine ⟨by simpa using left, ?_⟩
    rw [List.cons.injEq, Unreferenced, all]
    exact and_congr_left' (iff_of_true rfl (free.1 rfl))
  | refused table dropped cause rest ih =>
    obtain ⟨inside, others⟩ := List.cons_subset.1 among
    obtain ⟨middle, later, same, free⟩ := follows.recreate only sound inside holds
    obtain ⟨left, -⟩ := ih later (by simpa using same) others
    refine ⟨left, iff_of_false (fun all => ?_) fun unreferenced => ?_⟩
    · have shorter := rest.created_subset.length_le
      rw [all, List.length_cons] at shorter
      omega
    · cases free.2 unreferenced.1

/-! ### The groups of a run -/

section Recreation

variable {plain : Prop} (only : plain) {snapshot : Snapshot} {declared : List Table}
  {before after : Catalog} {events : List MigrationEvent} (distinct : (declared.map Table.name).Nodup)
  (named : ∀ table ∈ declared, table.constraintNames.Nodup)
  (closed : ∀ table ∈ declared, ∀ held ∈ table.heldKeys, held.key.table ∈ declared.map Table.name)

/-- Without recorded tables, no key is dropped for a group. -/
theorem dropped_of_unrecorded {group : TableGroup} (sound : snapshot.Sound)
    (unrecorded : ∀ table ∈ group, snapshot.get? table.name = none) :
    ownKeys snapshot group = [] ∧ inboundKeys snapshot group = [] := by
  constructor
  · refine List.eq_nil_iff_forall_not_mem.2 fun held inside => ?_
    obtain ⟨table, among, recorded, found, -⟩ := mem_ownKeys.1 inside
    cases (unrecorded table among).symm.trans found
  · refine List.eq_nil_iff_forall_not_mem.2 fun held inside => ?_
    obtain ⟨-, -, -, -, targeted, recorded⟩ := (mem_inboundKeys_iff sound).1 inside
    obtain ⟨table, among, same⟩ := List.mem_map.1 targeted
    rw [Snapshot.contains, ← same, unrecorded table among] at recorded
    cases recorded

include only distinct named closed in
/-- The keys of tables that were created are added again, and then the database holds all keys. -/
theorem Performed.holds {created : List Table} {kept : List HeldKey}
    (performed : Performed HeldKey.createStep (created.flatMap Table.heldKeys) events kept)
    (follows : Follows plain before events after) (holds : before.Holds declared (created.map Table.name))
    (below : created ⊆ declared) (apart : (created.map Table.name).Nodup) : after.Holds declared [] := by
  have owner {held : HeldKey} (inside : held ∈ created.flatMap Table.heldKeys) :
      ∃ table ∈ created, held ∈ table.heldKeys ∧ held.holder = table.name := by
    obtain ⟨table, made, mine⟩ := List.mem_flatMap.1 inside
    exact ⟨table, made, mine, holder_of_mem_heldKeys mine⟩
  have clean : failedSteps events = [] := by
    refine performed.adds_all only follows (keys_nodup apart fun table made => named table (below made))
      (fun held inside => ?_) fun held inside constraint there same => ?_
    · obtain ⟨table, made, mine, holder⟩ := owner inside
      constructor
      · refine (holds.tables _).2 ?_
        exact List.mem_map.2 ⟨table, below made, holder.symm⟩
      · exact (holds.tables _).2 (closed table (below made) held mine)
    · obtain ⟨table, made, -, holder⟩ := owner inside
      have holders : constraint.holder = held.holder := (Prod.mk.inj same).1
      refine ((holds.constraints constraint).1 there).2 ?_
      rw [holders, holder]
      exact List.mem_map_of_mem made
  have all : ∀ held ∈ created.flatMap Table.heldKeys, held ∈ kept := fun held inside =>
    (performed.kept_or_failed held inside).resolve_right (by rw [clean]; exact List.not_mem_nil)
  obtain ⟨tables, constraints⟩ := performed.adds follows
  refine ⟨fun name => by rw [tables, holds.tables], fun constraint => ?_⟩
  rw [constraints, holds.constraints]
  constructor
  · rintro (⟨key, -⟩ | ⟨held, added, rfl⟩)
    · exact ⟨key, List.not_mem_nil⟩
    · obtain ⟨table, made, mine, -⟩ := owner (performed.kept_subset.subset added)
      exact ⟨⟨table, below made, held, mine, rfl⟩, List.not_mem_nil⟩
  · rintro ⟨⟨table, inside, held, mine, rfl⟩, -⟩
    by_cases made : table ∈ created
    · exact .inr ⟨held, all held (List.mem_flatMap.2 ⟨table, made, mine⟩), rfl⟩
    · refine .inl ⟨⟨table, inside, held, mine, rfl⟩, fun bare => made ?_⟩
      obtain ⟨other, among, same⟩ := List.mem_map.1 bare
      have equal := List.inj_on_of_nodup_map distinct (below among) inside
        (same.trans (holder_of_mem_heldKeys mine))
      exact equal ▸ among

include only distinct named closed in
/-- A group whose tables are not recorded leaves the declared tables and keys as they were, and creates
its tables if nothing refers to them. -/
theorem GroupTrace.recreates {group : TableGroup} {created : List Table} (sound : snapshot.Sound)
    (trace : GroupTrace snapshot group events created) (follows : Follows plain before events after)
    (holds : before.Holds declared []) (among : group.Sublist declared)
    (unrecorded : ∀ table ∈ group, snapshot.get? table.name = none) :
    after.Holds declared [] ∧ (created = group ↔ Unreferenced declared [] group) := by
  have inGroup := distinct.sublist (among.map Table.name)
  have below := trace.created_subset
  rw [changedTables_of_unrecorded unrecorded] at below
  obtain ⟨own, inbound⟩ := dropped_of_unrecorded sound unrecorded
  have passed := trace.passed sound follows
  generalize failedSteps events = failed at passed
  cases passed with
  | @phases unlocked rebuilt _ dropping rebuilding adding unlinked detached attached
      drops _ _ dropped rebuilds replaced adds added =>
    rw [changedTables_of_unrecorded unrecorded] at drops rebuilds
    rw [own, inbound] at drops
    obtain ⟨-, undetached⟩ := List.append_eq_nil_iff.1 (List.sublist_nil.1 drops.kept_subset)
    obtain ⟨tables, constraints⟩ := drops.drops dropped
    have untouched : unlocked.Holds declared [] := by
      refine ⟨fun name => by rw [tables, holds.tables], fun constraint => ?_⟩
      rw [constraints, holds.constraints, List.sublist_nil.1 drops.kept_subset]
      exact and_iff_left (List.forall_mem_nil _)
    obtain ⟨bare, all⟩ := rebuilds.recreates only sound replaced untouched among.subset
    rw [List.nil_append] at bare
    rw [undetached, List.append_nil] at adds
    exact ⟨adds.holds only distinct named closed added bare (below.trans among).subset
      (inGroup.sublist (below.map Table.name)), all⟩

/-- Two parts are as long as they can be if they are so together. -/
theorem append_eq_append_iff_of_sublist {α : Type} {first second firstAll secondAll : List α}
    (left : first.Sublist firstAll) (right : second.Sublist secondAll) :
    first ++ second = firstAll ++ secondAll ↔ first = firstAll ∧ second = secondAll := by
  refine ⟨fun same => List.append_inj same ?_, fun ⟨one, other⟩ => by rw [one, other]⟩
  have lengths := congrArg List.length same
  rw [List.length_append, List.length_append] at lengths
  have := left.length_le
  have := right.length_le
  omega

/-- All tables were created if all their names are reported. -/
theorem map_name_eq_iff {created tables : List Table} (below : created.Sublist tables) :
    created.map Table.name = tables.map Table.name ↔ created = tables := by
  refine ⟨fun same => below.eq_of_length ?_, fun same => by rw [same]⟩
  simpa using congrArg List.length same

include only distinct named closed in
/-- **A run that starts without a snapshot leaves the declared tables and keys as they were.** It creates
all tables exactly if nothing refers to those of a group when their turn comes. -/
theorem RunTrace.recreates {final : Snapshot} {groups : List TableGroup}
    (trace : RunTrace snapshot groups events final) (follows : Follows plain before events after)
    (sound : snapshot.Sound) (holds : before.Holds declared []) (among : groups.flatten.Sublist declared)
    (unrecorded : ∀ table ∈ groups.flatten, snapshot.get? table.name = none) :
    after.Holds declared [] ∧ (MigrationReport.created ⟨events⟩ = groups.flatten.map Table.name ↔
      ∀ group ∈ groups, Unreferenced declared [] group) := by
  induction trace generalizing before with
  | done =>
    cases follows
    exact ⟨holds, iff_of_true rfl (List.forall_mem_nil _)⟩
  | @group snapshot final group groups first later created here rest ih =>
    obtain ⟨middle, followsFirst, followsLater⟩ := follows.append_inv
    rw [List.flatten_cons] at among unrecorded
    have inGroup : group.Sublist declared := (List.sublist_append_left _ _).trans among
    have changed := changedTables_of_unrecorded fun table inside =>
      unrecorded table (List.mem_append_left _ inside)
    have below : created.Sublist group := changed ▸ here.created_subset
    obtain ⟨holdsAgain, all⟩ := here.recreates only distinct named closed sound followsFirst holds inGroup
      fun table inside => unrecorded table (List.mem_append_left _ inside)
    have soundAgain := record_sound sound fun table made => named table (inGroup.subset (below.subset made))
    obtain ⟨finally', allLater⟩ := ih followsLater soundAgain holdsAgain
      ((List.sublist_append_right _ _).trans among)
      (here.unrecorded (distinct.sublist (among.map Table.name)) unrecorded)
    refine ⟨finally', ?_⟩
    obtain ⟨_, laterBelow, -, reported, -⟩ := rest.records
    rw [created_append, here.views.1, List.flatten_cons, List.map_append,
      append_eq_append_iff_of_sublist (below.map _) (reported ▸ laterBelow.map _), map_name_eq_iff below,
      all, allLater, List.forall_mem_cons]

end Recreation

/-! ### The order of the tables -/

/-- A table refers to none that is declared before it. -/
def RefersOnward (tables : List Table) : Prop :=
  tables.Pairwise fun earlier later => ¬ later.RefersTo earlier.name

instance (tables : List Table) : Decidable (RefersOnward tables) :=
  inferInstanceAs (Decidable (tables.Pairwise fun earlier later => ¬ later.RefersTo earlier.name))

theorem refersOnward_cons {table : Table} {rest : List Table} :
    RefersOnward (table :: rest) ↔ (∀ other ∈ rest, ¬ other.RefersTo table.name) ∧ RefersOnward rest :=
  List.pairwise_cons

theorem refersOnward_append {first second : List Table} :
    RefersOnward (first ++ second) ↔ RefersOnward first ∧ RefersOnward second ∧
      ∀ table ∈ first, ∀ other ∈ second, ¬ other.RefersTo table.name :=
  List.pairwise_append

/-- If the tables of the groups before are not referred to from there, the rest of a group can be created
anew exactly if neither it nor what is declared later refers back. -/
theorem unreferenced_iff {declared rest later : List Table} {bare : List String}
    (distinct : ((rest ++ later).map Table.name).Nodup)
    (pending : ∀ table ∈ rest ++ later, table ∈ declared ∧ table.name ∉ bare)
    (settled : ∀ other ∈ declared, other.name ∈ bare ∨ other ∈ rest ++ later ∨
      ∀ table ∈ rest, ¬ other.RefersTo table.name) :
    Unreferenced declared bare rest ↔
      RefersOnward rest ∧ ∀ table ∈ rest, ∀ other ∈ later, ¬ other.RefersTo table.name := by
  induction rest generalizing bare with
  | nil => exact iff_of_true trivial ⟨.nil, List.forall_mem_nil _⟩
  | cons table rest ih =>
    rw [List.cons_append, List.map_cons, List.nodup_cons] at distinct
    obtain ⟨fresh, distinct⟩ := distinct
    obtain ⟨-, pending⟩ := List.forall_mem_cons.1 pending
    have differ {other : Table} (behind : other ∈ rest ++ later) : other.name ≠ table.name :=
      fun same => fresh (same ▸ List.mem_map_of_mem behind)
    have here : (∀ other ∈ declared, other.RefersTo table.name →
        other.name = table.name ∨ other.name ∈ bare) ↔
        ∀ other ∈ rest ++ later, ¬ other.RefersTo table.name := by
      constructor
      · intro free other behind refers
        obtain ⟨inside, kept⟩ := pending other behind
        exact (free other inside refers).elim (differ behind) kept
      · intro free other inside refers
        rcases settled other inside with dropped | behind | apart
        · exact .inr dropped
        · rcases List.mem_cons.1 behind with rfl | behind
          · exact .inl rfl
          · exact absurd refers (free other behind)
        · exact absurd refers (apart table List.mem_cons_self)
    have shifted : Unreferenced declared (bare ++ [table.name]) rest ↔
        RefersOnward rest ∧ ∀ table ∈ rest, ∀ other ∈ later, ¬ other.RefersTo table.name := by
      refine ih distinct (fun other behind => ?_) fun other inside => ?_
      · obtain ⟨inside, kept⟩ := pending other behind
        exact ⟨inside, by simp [kept, differ behind]⟩
      · rcases settled other inside with dropped | behind | apart
        · exact .inl (List.mem_append_left _ dropped)
        · rcases List.mem_cons.1 behind with rfl | behind
          · exact .inl (List.mem_append_right _ (List.mem_singleton.2 rfl))
          · exact .inr (.inl behind)
        · exact .inr (.inr fun table behind => apart table (List.mem_cons_of_mem _ behind))
    rw [Unreferenced, here, shifted, refersOnward_cons, List.forall_mem_append, List.forall_mem_cons]
    exact and_and_and_comm

/-- **All tables are created anew exactly if none refers to a table that is declared before it.** The
groups before are those that no reference leaves. -/
theorem unreferenced_iff_refersOnward {known : String → Prop} {earlier : List Table}
    {groups : List TableGroup} (distinct : ((earlier ++ groups.flatten).map Table.name).Nodup)
    (available : Available known groups) (before : ∀ name, known name → name ∈ earlier.map Table.name)
    (closed : ∀ table ∈ earlier, ∀ entry ∈ table.foreignKeys, entry.2.table ∈ earlier.map Table.name) :
    (∀ group ∈ groups, Unreferenced (earlier ++ groups.flatten) [] group) ↔
      RefersOnward groups.flatten := by
  induction groups generalizing known earlier with
  | nil => exact iff_of_true (List.forall_mem_nil _) .nil
  | cons group groups ih =>
    rw [List.flatten_cons] at distinct ⊢
    obtain ⟨-, inRest, differ⟩ := names_apart distinct
    have here : Unreferenced (earlier ++ (group ++ groups.flatten)) [] group ↔
        RefersOnward group ∧ ∀ table ∈ group, ∀ other ∈ groups.flatten, ¬ other.RefersTo table.name := by
      refine unreferenced_iff inRest
        (fun table behind => ⟨List.mem_append_right _ behind, List.not_mem_nil⟩) fun other inside => ?_
      rcases List.mem_append.1 inside with above | behind
      · refine .inr (.inr ?_)
        rintro table behind ⟨entry, mine, target⟩
        obtain ⟨referred, among, same⟩ := List.mem_map.1 (closed other above entry mine)
        exact differ referred among table (List.mem_append_left _ behind) (same.trans target)
      · exact .inr (.inl behind)
    have later : (∀ other ∈ groups, Unreferenced (earlier ++ group ++ groups.flatten) [] other) ↔
        RefersOnward groups.flatten := by
      refine ih (by rwa [List.append_assoc]) available.2 (fun name recorded => ?_)
        fun table inside entry mine => ?_
      · rw [List.map_append, List.mem_append]
        exact recorded.symm.imp (before name) id
      · rw [List.map_append, List.mem_append]
        rcases List.mem_append.1 inside with above | within
        · exact .inl (closed table above entry mine)
        · exact (available.1 table within entry mine).symm.imp (before _) id
    rw [List.append_assoc] at later
    rw [List.forall_mem_cons, here, later, refersOnward_append, and_right_comm, and_assoc]

/-! ### A lost snapshot -/

/-- Behind a run that starts without a snapshot nothing is left to do exactly if it created all tables,
and no default is not a number. -/
theorem RunTrace.diff_eq_nil_iff {groups : List TableGroup} {events : List MigrationEvent}
    {final : Snapshot} (trace : RunTrace .empty groups events final)
    (distinct : (groups.flatten.map Table.name).Nodup) :
    diff final groups = [] ↔ MigrationReport.created ⟨events⟩ = groups.flatten.map Table.name ∧
      ∀ table ∈ groups.flatten, table.hasNumbers := by
  have created : MigrationReport.created ⟨events⟩ = groups.flatten.map Table.name ↔
      ∀ table ∈ groups.flatten, table.name ∉ refusedTables events := by
    have changed : changedTables .empty groups.flatten = groups.flatten :=
      changedTables_of_unrecorded fun _ _ => rfl
    rw [trace.created_eq distinct, ← changedTables, changed, map_name_eq_iff List.filter_sublist,
      List.filter_eq_self]
    simp only [decide_eq_true_eq]
  rw [Migration.diff_eq_nil_iff, created, ← forall₂_and]
  refine forall₂_congr fun table declared => ?_
  rw [Snapshot.isChanged_eq_false_iff, trace.get?_declared distinct declared]
  by_cases granted : table.name ∉ refusedTables events
  · rw [if_pos ⟨isChanged_of_unrecorded rfl, granted⟩, ← Table.beq_self]
    constructor
    · rintro ⟨held, same, equal⟩
      exact ⟨granted, Option.some.inj same ▸ equal⟩
    · exact fun both => ⟨table, rfl, both.2⟩
  · rw [if_neg fun both => granted both.2]
    refine iff_of_false ?_ fun both => granted both.1
    rintro ⟨held, found, -⟩
    cases found

theorem Settled.holds {groups : List TableGroup} {catalog : Catalog} {snapshot : Snapshot}
    (settled : Settled groups catalog snapshot) : catalog.Holds groups.flatten [] where
  tables name := (settled.agrees.tables name).trans settled.contains_iff
  constraints constraint := by
    rw [settled.agrees.constraints, settled.records_iff]
    exact (and_iff_left List.not_mem_nil).symm

/-- **A lost snapshot is rebuilt from exactly if no table refers to one that is declared before it.** In
any case the database holds the declared tables and keys behind the run, as it did before it. -/
theorem lost_snapshot_rebuilds_iff {groups : List TableGroup} {catalog : Catalog} {recorded : Snapshot}
    {store : Store} (valid : ∀ table ∈ groups.flatten, table.validate = .ok ())
    (distinct : (groups.flatten.map Table.name).Nodup) (available : Available (fun _ => False) groups)
    (reached : Relation.TransGen (Migrates groups) (⟨∅, ∅⟩, .empty) (catalog, recorded))
    (lost : store.load = .empty) (writable : store.Writable) :
    ∃ report saved calls,
      migrate (some (catalog.database .none)) groups store [] = ((.ok report, saved), calls) ∧
      (∀ name, name ∈ (catalog.after .none calls).tables ↔ name ∈ groups.flatten.map Table.name) ∧
      (∀ constraint, constraint ∈ (catalog.after .none calls).constraints ↔
        KeyOf groups.flatten constraint) ∧
      (report.created = groups.flatten.map Table.name ↔ RefersOnward groups.flatten) ∧
      ((∃ snapshot, store = .memory snapshot) ∨
          (∀ value ∈ groups.flatten.flatMap Table.floats, Json.ReadsBack value) →
        (diff saved.load groups = [] ↔
          RefersOnward groups.flatten ∧ ∀ table ∈ groups.flatten, table.hasNumbers)) := by
  have settled := settled_of_reached valid distinct available reached
  obtain ⟨events, final, saved, calls, ran, trace, logged, untouched, written⟩ :=
    migrate_store (catalog.database .none) writable [] valid
  have loaded := load_saved trace untouched written
  rw [lost] at trace
  obtain ⟨holds, all⟩ := trace.recreates (fun _ _ => rfl) distinct settled.named
    (fun _ inside _ => settled.closed inside) logged.follows empty_sound settled.holds (.refl _)
    fun _ _ => rfl
  have order : (∀ group ∈ groups, Unreferenced ([] ++ groups.flatten) [] group) ↔
      RefersOnward groups.flatten :=
    unreferenced_iff_refersOnward distinct available (fun _ => False.elim) (List.forall_mem_nil _)
  rw [List.nil_append] at order
  refine ⟨⟨events⟩, saved, calls, ran, holds.tables, fun constraint => ?_, all.trans order, ?_⟩
  · exact (holds.constraints constraint).trans (and_iff_left List.not_mem_nil)
  · intro readable
    have same : saved.load = final := by
      refine loaded (.inr (readable.imp id fun readsBack value held => readsBack value ?_))
      obtain ⟨table, among, mine⟩ := List.mem_flatMap.1 held
      obtain ⟨name, found⟩ := Snapshot.mem_tables_iff.1 among
      obtain ⟨created, declared, rfl, -, -⟩ := trace.records
      rcases get?_record_cases found with ⟨made, -⟩ | ⟨-, earlier⟩
      · exact List.mem_flatMap.2 ⟨table, declared.subset made, mine⟩
      · cases earlier
    rw [same, trace.diff_eq_nil_iff distinct, all.trans order]

/-! ### Authors and their songs, in both orders -/

/-- A migration of the groups that only the rules of a database restrict. -/
def migrateByRules (catalog : Catalog) (groups : List TableGroup) (store : Store) :
    (Except RunError MigrationReport × Store) × History :=
  migrate (some (catalog.database .none)) groups store []

/-- A migration that reports no failure is clean. -/
theorem migrates_of_outcome {groups : List TableGroup} {catalog : Catalog} {snapshot : Snapshot}
    (valid : ∀ table ∈ groups.flatten, table.validate = .ok ())
    (clean : (migrateByRules catalog groups (.memory snapshot)).1.1.toOption.map
      MigrationReport.failures = some []) :
    Migrates groups (catalog, snapshot)
      (catalog.after .none (migrateByRules catalog groups (.memory snapshot)).2,
        (migrateByRules catalog groups (.memory snapshot)).1.2.load) := by
  obtain ⟨events, final, calls, ran, -, -⟩ :=
    migrate_memory (catalog.database .none) snapshot [] valid
  rw [← migrateByRules] at ran
  rw [ran] at clean ⊢
  exact ⟨.none, ⟨events⟩, calls, ran, Option.some.inj clean, rfl⟩

/-- A group of the authors and of the songs that refer to them. -/
def musicOrders : List TableGroup := [[authors, songs], [songs, authors]]

/-- What a migration of an empty database records. -/
def recordedAtFirst (group : TableGroup) : Snapshot :=
  (migrateByRules ⟨∅, ∅⟩ [group] (.memory .empty)).1.2.load

/-- In both orders a clean migration of an empty database leads to the same tables and keys. -/
theorem music_reached {group : TableGroup} (ordered : group ∈ musicOrders) :
    (∀ table ∈ [group].flatten, table.validate = .ok ()) ∧ ([group].flatten.map Table.name).Nodup ∧
    Available (fun _ => False) [group] ∧
    Relation.TransGen (Migrates [group]) (⟨∅, ∅⟩, .empty) (music, recordedAtFirst group) := by
  have sound : ∀ group ∈ musicOrders, (∀ table ∈ [group].flatten, table.validate = .ok ()) ∧
      ([group].flatten.map Table.name).Nodup ∧ ∀ table ∈ group, ∀ entry ∈ table.foreignKeys,
        entry.2.table ∈ group.map Table.name := by decide
  have outcome : ∀ group ∈ musicOrders,
      let first := migrateByRules ⟨∅, ∅⟩ [group] (.memory .empty)
      let after := Catalog.after ⟨∅, ∅⟩ .none first.2
      first.1.1.toOption.map MigrationReport.failures = some [] ∧
        after.tables = music.tables ∧ after.constraints = music.constraints := by decide +kernel
  obtain ⟨valid, distinct, targets⟩ := sound group ordered
  obtain ⟨clean, tables, constraints⟩ := outcome group ordered
  have migrates := migrates_of_outcome valid clean
  have same : Catalog.after ⟨∅, ∅⟩ .none (migrateByRules ⟨∅, ∅⟩ [group] (.memory .empty)).2 = music :=
    congrArg₂ Catalog.mk tables constraints
  rw [same] at migrates
  exact ⟨valid, distinct, ⟨fun table inside entry mine => .inl (targets table inside entry mine),
    trivial⟩, .single migrates⟩

/-- The songs are declared before the authors that they refer to. -/
theorem lost_snapshot_rebuilds_music :
    (∀ table ∈ [[songs, authors]].flatten, table.validate = .ok ()) ∧
    ([[songs, authors]].flatten.map Table.name).Nodup ∧
    Available (fun _ => False) [[songs, authors]] ∧
    Relation.TransGen (Migrates [[songs, authors]]) (⟨∅, ∅⟩, .empty)
      (music, recordedAtFirst [songs, authors]) ∧
    (Store.file none).load = .empty ∧ (Store.file none).Writable ∧
    ∃ report saved calls,
      migrate (some (music.database .none)) [[songs, authors]] (.file none) [] =
        ((.ok report, saved), calls) ∧
      report.created = ["songs", "authors"] ∧ diff saved.load [[songs, authors]] = [] := by
  have ordered : [songs, authors] ∈ musicOrders := List.mem_cons_of_mem _ List.mem_cons_self
  obtain ⟨valid, distinct, available, reached⟩ := music_reached ordered
  have lost : (Store.file none).load = .empty := rfl
  have writable : (Store.file none).Writable := fun _ => rfl
  have onward : RefersOnward [[songs, authors]].flatten := by decide
  obtain ⟨report, saved, calls, ran, -, -, created, left⟩ :=
    lost_snapshot_rebuilds_iff valid distinct available reached lost writable
  have none : ∀ value ∈ [[songs, authors]].flatten.flatMap Table.floats, Json.ReadsBack value :=
    fun value inside => absurd inside List.not_mem_nil
  exact ⟨valid, distinct, available, reached, lost, writable, report, saved, calls, ran,
    created.2 onward, (left (.inr none)).2 ⟨onward, by decide⟩⟩

/-- **A lost snapshot may never be rebuilt from.** The songs are declared behind the authors that they
refer to, so the authors can neither be dropped nor created, in this run and in the next one. -/
theorem lost_snapshot_never_rebuilt :
    let groups := [[authors, songs]]
    let second := migrateByRules music groups (.file none)
    let third := migrateByRules (music.after .none second.2) groups second.1.2
    (∀ table ∈ groups.flatten, table.validate = .ok ()) ∧ (groups.flatten.map Table.name).Nodup ∧
    Available (fun _ => False) groups ∧
    Relation.TransGen (Migrates groups) (⟨∅, ∅⟩, .empty) (music, recordedAtFirst [authors, songs]) ∧
    second.1.1.toOption.map MigrationReport.created = some ["songs"] ∧
    diff second.1.2.load groups = ["authors"] ∧
    third.1.1.toOption.map MigrationReport.created = some [] ∧
    diff third.1.2.load groups = ["authors"] := by
  obtain ⟨valid, distinct, available, reached⟩ := music_reached List.mem_cons_self
  exact ⟨valid, distinct, available, reached, by decide +kernel⟩

end Migration

end SqlCraft
