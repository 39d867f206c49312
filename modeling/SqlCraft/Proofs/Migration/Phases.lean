/-
**Phases: what the parts of a run do to a catalog.**

Keys are dropped, tables are dropped and created, keys are added. Each phase is told by what it
changes and what it leaves alone, whatever is refused; and if commands are only refused by the rules
of the catalog, it is told when none is:

* `Performed.drops`, `Performed.adds` — the constraints behind dropped and added keys;
* `Replaces`, `Rebuilt.replaces` — the tables and constraints behind dropped and created tables;
* `Performed.drops_all`, `Performed.adds_all` — when nothing is refused.
-/

import SqlCraft.Proofs.Migration.Keys

namespace SqlCraft

namespace Migration

section Following

variable {plain : Prop} {before after : Catalog} {events : List MigrationEvent}

/-- A run in two parts is followed part by part. -/
theorem Follows.append_inv {first second : List MigrationEvent}
    (follows : Follows plain before (first ++ second) after) :
    ∃ middle, Follows plain before first middle ∧ Follows plain middle second after := by
  induction first generalizing before with
  | nil => exact ⟨before, .done before, follows⟩
  | cons event rest ih =>
    cases follows with
    | unchanged table later =>
      obtain ⟨middle, left, right⟩ := ih later
      exact ⟨middle, .unchanged table left, right⟩
    | rebuilding table later =>
      obtain ⟨middle, left, right⟩ := ih later
      exact ⟨middle, .rebuilding table left, right⟩
    | created table later =>
      obtain ⟨middle, left, right⟩ := ih later
      exact ⟨middle, .created table left, right⟩
    | granted read allowed later =>
      obtain ⟨middle, left, right⟩ := ih later
      exact ⟨middle, .granted read allowed left, right⟩
    | refused denied later =>
      obtain ⟨middle, left, right⟩ := ih later
      exact ⟨middle, .refused denied left, right⟩

theorem Follows.keptTables_eq {tables : List Table}
    (follows : Follows plain before (tables.map fun table => .unchanged table.name) after) :
    after = before := by
  induction tables with
  | nil =>
    cases follows
    rfl
  | cons table rest ih =>
    cases follows with
    | unchanged _ later => exact ih later

theorem Follows.created_eq {tables : List Table}
    (follows : Follows plain before (tables.map fun table => .created table.name) after) :
    after = before := by
  induction tables with
  | nil =>
    cases follows
    rfl
  | cons table rest ih =>
    cases follows with
    | created _ later => exact ih later

/-- No run leaves a constraint without its tables. -/
theorem Follows.closed (follows : Follows plain before events after) (closed : before.Closed) :
    after.Closed := by
  induction follows with
  | done => exact closed
  | unchanged _ _ ih => exact ih closed
  | rebuilding _ _ ih => exact ih closed
  | created _ _ ih => exact ih closed
  | granted _ allowed _ ih => exact ih (closed.apply allowed)
  | refused _ _ ih => exact ih closed

/-! ### Keys are dropped -/

/-- Behind dropped keys, the constraints are those before without the dropped ones. -/
theorem Performed.drops {items kept : List HeldKey}
    (performed : Performed HeldKey.dropStep items events kept)
    (follows : Follows plain before events after) :
    after.tables = before.tables ∧ ∀ constraint, constraint ∈ after.constraints ↔
      constraint ∈ before.constraints ∧ ∀ held ∈ kept, constraint.key ≠ held.constraint.key := by
  induction performed generalizing before with
  | nil =>
    cases follows
    exact ⟨rfl, fun constraint => by simp⟩
  | granted item _ ih =>
    cases follows with
    | granted read allowed later =>
      obtain rfl := Option.some.inj (item.read_dropStep.symm.trans read)
      obtain ⟨tables, constraints⟩ := ih later
      refine ⟨tables, fun constraint => ?_⟩
      rw [constraints, List.forall_mem_cons, Catalog.apply, Finset.mem_filter, and_assoc]
      rfl
  | refused item cause _ ih =>
    cases follows with
    | refused _ later => exact ih later

/-- If commands are only refused by the rules, none of the keys is there behind the drops. -/
theorem Performed.drops_plain {items kept : List HeldKey} (only : plain)
    (performed : Performed HeldKey.dropStep items events kept)
    (follows : Follows plain before events after) :
    ∀ held ∈ items, ∀ constraint ∈ after.constraints, constraint.key ≠ held.constraint.key := by
  induction performed generalizing before with
  | nil => exact fun held inside => absurd inside List.not_mem_nil
  | granted item rest ih =>
    cases follows with
    | granted read allowed later =>
      obtain rfl := Option.some.inj (item.read_dropStep.symm.trans read)
      have fewer := ((rest.drops later).2 · |>.1)
      refine List.forall_mem_cons.2 ⟨fun constraint inside => ?_, ih later⟩
      exact (Finset.mem_filter.1 (fewer constraint inside).1).2
  | refused item cause rest ih =>
    cases follows with
    | refused denied later =>
      have fewer := ((rest.drops later).2 · |>.1)
      refine List.forall_mem_cons.2 ⟨fun constraint inside same => ?_, ih later⟩
      exact denied only _ item.read_dropStep ⟨constraint, (fewer constraint inside).1, same⟩

/-- If the keys are there, and no two of them are the same, none of the drops is refused. -/
theorem Performed.drops_all {items kept : List HeldKey} (only : plain)
    (performed : Performed HeldKey.dropStep items events kept)
    (follows : Follows plain before events after)
    (distinct : (items.map fun held => held.constraint.key).Nodup)
    (present : ∀ held ∈ items, held.constraint ∈ before.constraints) :
    kept = items ∧ failedSteps events = [] := by
  induction performed generalizing before with
  | nil => exact ⟨rfl, rfl⟩
  | granted item rest ih =>
    rw [List.map_cons, List.nodup_cons] at distinct
    cases follows with
    | granted read allowed later =>
      obtain rfl := Option.some.inj (item.read_dropStep.symm.trans read)
      obtain ⟨same, none⟩ := ih later distinct.2 fun held inside => by
        have apart : held.constraint.key ≠ item.constraint.key := fun equal =>
          distinct.1 (equal ▸ List.mem_map_of_mem inside)
        exact Finset.mem_filter.2 ⟨present held (List.mem_cons_of_mem _ inside), apart⟩
      exact ⟨by rw [same], none⟩
  | refused item cause rest ih =>
    cases follows with
    | refused denied later =>
      have held := present item List.mem_cons_self
      exact absurd ⟨item.constraint, held, rfl⟩ (denied only _ item.read_dropStep)

/-! ### Keys are added -/

/-- Behind added keys, the constraints are those before together with the added ones. -/
theorem Performed.adds {items kept : List HeldKey}
    (performed : Performed HeldKey.createStep items events kept)
    (follows : Follows plain before events after) :
    after.tables = before.tables ∧ ∀ constraint, constraint ∈ after.constraints ↔
      constraint ∈ before.constraints ∨ ∃ held ∈ kept, constraint = held.constraint := by
  induction performed generalizing before with
  | nil =>
    cases follows
    exact ⟨rfl, fun constraint => by simp⟩
  | granted item _ ih =>
    cases follows with
    | granted read allowed later =>
      obtain rfl := Option.some.inj (item.read_createStep.symm.trans read)
      obtain ⟨tables, constraints⟩ := ih later
      refine ⟨tables, fun constraint => ?_⟩
      rw [constraints, Catalog.apply, Finset.mem_insert, List.exists_mem_cons_iff, or_assoc,
        or_left_comm]
  | refused item cause _ ih =>
    cases follows with
    | refused _ later => exact ih later

/-- An item whose step was not granted is one whose step failed. -/
theorem Performed.kept_or_failed {α : Type} {step : α → Step} {items kept : List α}
    (performed : Performed step items events kept) :
    ∀ item ∈ items, item ∈ kept ∨ step item ∈ failedSteps events := by
  induction performed with
  | nil => exact fun item inside => absurd inside List.not_mem_nil
  | granted item _ ih =>
    refine List.forall_mem_cons.2 ⟨.inl List.mem_cons_self, fun other inside => ?_⟩
    exact (ih other inside).imp (List.mem_cons_of_mem _) id
  | refused item cause _ ih =>
    refine List.forall_mem_cons.2 ⟨.inr List.mem_cons_self, fun other inside => ?_⟩
    exact (ih other inside).imp id (List.mem_cons_of_mem _)

/-- If the tables of the keys are there, and every key is new, none of the additions is refused. -/
theorem Performed.adds_all {items kept : List HeldKey} (only : plain)
    (performed : Performed HeldKey.createStep items events kept)
    (follows : Follows plain before events after)
    (distinct : (items.map fun held => held.constraint.key).Nodup)
    (tables : ∀ held ∈ items,
      held.constraint.holder ∈ before.tables ∧ held.constraint.target ∈ before.tables)
    (fresh : ∀ held ∈ items, ∀ constraint ∈ before.constraints,
      constraint.key ≠ held.constraint.key) :
    failedSteps events = [] := by
  induction performed generalizing before with
  | nil => rfl
  | granted item rest ih =>
    rw [List.map_cons, List.nodup_cons] at distinct
    cases follows with
    | granted read allowed later =>
      obtain rfl := Option.some.inj (item.read_createStep.symm.trans read)
      refine ih later distinct.2 (fun held inside => tables held (List.mem_cons_of_mem _ inside)) ?_
      intro held inside constraint found
      rcases Finset.mem_insert.1 found with rfl | old
      · intro equal
        exact distinct.1 (equal ▸ List.mem_map_of_mem inside)
      · exact fresh held (List.mem_cons_of_mem _ inside) constraint old
  | refused item cause rest ih =>
    cases follows with
    | refused denied later =>
      have allowed : before.Allows (.addConstraint item.constraint) :=
        ⟨(tables item List.mem_cons_self).1, (tables item List.mem_cons_self).2,
          fresh item List.mem_cons_self⟩
      exact absurd allowed (denied only _ item.read_createStep)

end Following

/-! ### Tables are dropped and created -/

/-- Tables of some names were replaced, and those of some of the names are new. -/
structure Replaces (names made : List String) (before after : Catalog) : Prop where
  /-- Other tables are left alone. -/
  others : ∀ name ∉ names, (name ∈ after.tables ↔ name ∈ before.tables)
  /-- New tables are there. -/
  present : ∀ name ∈ made, name ∈ after.tables
  /-- Every table was there or is new. -/
  earlier : ∀ name ∈ after.tables, name ∈ before.tables ∨ name ∈ made
  /-- No constraint is added. -/
  fewer : after.constraints ⊆ before.constraints
  /-- Constraints held by other tables are left alone. -/
  kept : ∀ constraint ∈ before.constraints, constraint.holder ∉ names →
    constraint ∈ after.constraints
  /-- New tables hold no constraint. -/
  cleared : ∀ constraint ∈ after.constraints, constraint.holder ∉ made

theorem Replaces.refl (catalog : Catalog) (names : List String) : Replaces names [] catalog catalog where
  others _ _ := Iff.rfl
  present _ inside := absurd inside List.not_mem_nil
  earlier _ inside := .inl inside
  fewer := Finset.Subset.refl _
  kept _ inside _ := inside
  cleared _ _ := List.not_mem_nil

/-- Replacing some tables and then others is replacing them all. -/
theorem Replaces.trans {firstNames firstMade laterNames laterMade : List String}
    {before middle after : Catalog} (first : Replaces firstNames firstMade before middle)
    (later : Replaces laterNames laterMade middle after)
    (apart : ∀ name ∈ firstMade, name ∉ laterNames) :
    Replaces (firstNames ++ laterNames) (firstMade ++ laterMade) before after where
  others name outside := by
    rw [List.mem_append, not_or] at outside
    rw [later.others name outside.2, first.others name outside.1]
  present name inside := by
    rcases List.mem_append.1 inside with early | late
    · exact (later.others name (apart name early)).2 (first.present name early)
    · exact later.present name late
  earlier name inside := by
    rw [List.mem_append]
    rcases later.earlier name inside with old | new
    · exact (first.earlier name old).imp id .inl
    · exact .inr (.inr new)
  fewer := later.fewer.trans first.fewer
  kept constraint inside outside := by
    rw [List.mem_append, not_or] at outside
    exact later.kept constraint (first.kept constraint inside outside.1) outside.2
  cleared constraint inside := by
    rw [List.mem_append, not_or]
    exact ⟨first.cleared constraint (later.fewer inside), later.cleared constraint inside⟩

theorem Replaces.drop (catalog : Catalog) (name : String) (ifExists : Bool) :
    Replaces [name] [] catalog (catalog.apply (.dropTable name ifExists)) where
  others other outside := by
    rw [List.mem_singleton] at outside
    exact ⟨fun inside => (Finset.mem_erase.1 inside).2, fun inside =>
      Finset.mem_erase.2 ⟨outside, inside⟩⟩
  present _ inside := absurd inside List.not_mem_nil
  earlier _ inside := .inl (Finset.mem_erase.1 inside).2
  fewer := Finset.filter_subset _ _
  kept _ inside outside := Finset.mem_filter.2 ⟨inside, mt List.mem_singleton.2 outside⟩
  cleared _ _ := List.not_mem_nil

/-- A table that is not there holds no constraint, so neither does it when it is new. -/
theorem Replaces.create {before middle : Catalog} {name : String}
    (replaces : Replaces [name] [] before middle) (closed : middle.Closed)
    (absent : name ∉ middle.tables) :
    Replaces [name] [name] before (middle.apply (.createTable name)) where
  others other outside := by
    rw [← replaces.others other outside]
    have differ : other ≠ name := mt List.mem_singleton.2 outside
    exact ⟨fun inside => (Finset.mem_insert.1 inside).resolve_left differ, Finset.mem_insert_of_mem⟩
  present other inside := by
    rw [List.mem_singleton.1 inside]
    exact Finset.mem_insert_self _ _
  earlier other inside := by
    rcases Finset.mem_insert.1 inside with rfl | old
    · exact .inr List.mem_cons_self
    · exact .inl ((replaces.earlier other old).resolve_right List.not_mem_nil)
  fewer := replaces.fewer
  kept := replaces.kept
  cleared constraint inside held :=
    absent (List.mem_singleton.1 held ▸ (closed constraint inside).1)

/-- A table that is to be created after it was dropped is dropped under its own name; if it is
recorded, it has to be there. -/
theorem read_dropStep {snapshot : Snapshot} (sound : snapshot.Sound) (table : Table) :
    Command.read? (dropStep snapshot table).sql =
      some (.dropTable table.name (!snapshot.contains table.name)) := by
  unfold dropStep Snapshot.contains
  cases recorded : snapshot.get? table.name with
  | none => exact Command.read?_dropIfExistsSql table
  | some previous =>
    have same := sound.keyed table.name previous recorded
    rw [← same]
    exact Command.read?_dropSql previous

/-- One table is dropped, whether that is granted or not. -/
theorem Follows.drop {plain : Prop} {before after : Catalog} {events : List MigrationEvent}
    {snapshot : Snapshot} (sound : snapshot.Sound) {table : Table} {dropped : Option String}
    (closed : before.Closed)
    (follows : Follows plain before (.attempted (dropStep snapshot table) dropped :: events) after) :
    ∃ middle, middle.Closed ∧ Replaces [table.name] [] before middle ∧
      Follows plain middle events after ∧
      (plain → (∀ constraint ∈ before.constraints, constraint.target = table.name →
          constraint.holder = table.name) →
        table.name ∉ middle.tables ∧
          ((snapshot.contains table.name → table.name ∈ before.tables) → dropped = none)) := by
  cases follows with
  | granted read allowed later =>
    obtain rfl := Option.some.inj ((read_dropStep sound table).symm.trans read)
    refine ⟨_, closed.apply allowed, .drop before table.name _, later, fun _ _ => ⟨?_, fun _ => rfl⟩⟩
    exact Finset.notMem_erase _ _
  | refused denied later =>
    refine ⟨before, closed, .refl before _, later, fun only unreferenced => ?_⟩
    have refused := denied only _ (read_dropStep sound table)
    constructor
    · intro inside
      exact refused ⟨.inl inside, unreferenced⟩
    · intro recorded
      refine absurd ⟨?_, unreferenced⟩ refused
      cases held : snapshot.contains table.name with
      | true => exact .inl (recorded held)
      | false => exact .inr rfl

/-- One table is created, unless that is refused. -/
theorem Follows.create {plain : Prop} {before middle after : Catalog} {events : List MigrationEvent}
    {table : Table} {refusal : Option String} (replaces : Replaces [table.name] [] before middle)
    (closed : middle.Closed)
    (follows : Follows plain middle (.attempted (createStep table) refusal :: events) after) :
    ∃ final, final.Closed ∧
      Replaces [table.name] (if refusal.isNone then [table.name] else []) before final ∧
      Follows plain final events after ∧
      (plain → table.name ∉ middle.tables → refusal = none) := by
  have read : Command.read? (createStep table).sql = some (.createTable table.name) :=
    Command.read?_createSql table
  cases follows with
  | granted found allowed later =>
    obtain rfl := Option.some.inj (read.symm.trans found)
    exact ⟨_, closed.apply allowed, replaces.create closed allowed, later, fun _ _ => rfl⟩
  | refused denied later =>
    exact ⟨middle, closed, replaces, later, fun only absent => absurd absent (denied only _ read)⟩

/-- One table is dropped and created. -/
theorem Follows.rebuild {plain : Prop} {before after : Catalog} {events : List MigrationEvent}
    {snapshot : Snapshot} (sound : snapshot.Sound) {table : Table} {dropped refusal : Option String}
    (closed : before.Closed)
    (follows : Follows plain before (.rebuilding table.name ::
      .attempted (dropStep snapshot table) dropped ::
        .attempted (createStep table) refusal :: events) after) :
    ∃ middle, middle.Closed ∧
      Replaces [table.name] (if refusal.isNone then [table.name] else []) before middle ∧
      Follows plain middle events after ∧
      (plain → (∀ constraint ∈ before.constraints, constraint.target = table.name →
          constraint.holder = table.name) →
        refusal = none ∧
          ((snapshot.contains table.name → table.name ∈ before.tables) → dropped = none)) := by
  cases follows with
  | rebuilding _ later =>
    obtain ⟨between, closedBetween, emptied, created, plainDrop⟩ := later.drop sound closed
    obtain ⟨middle, closedMiddle, replaced, rest, plainCreate⟩ :=
      created.create emptied closedBetween
    refine ⟨middle, closedMiddle, replaced, rest, fun only unreferenced => ?_⟩
    obtain ⟨absent, granted⟩ := plainDrop only unreferenced
    exact ⟨plainCreate only absent, granted⟩

/-- **Behind dropped and created tables, the created ones are new and hold no constraint.** If
commands are only refused by the rules and no other table refers to them, all are created; if the
recorded ones were there, nothing is refused. -/
theorem Rebuilt.replaces {plain : Prop} {before after : Catalog} {events : List MigrationEvent}
    {snapshot : Snapshot} {tables created : List Table} (sound : snapshot.Sound)
    (rebuilt : Rebuilt snapshot tables events created) (follows : Follows plain before events after)
    (closed : before.Closed) (distinct : (tables.map Table.name).Nodup) :
    Replaces (tables.map Table.name) (created.map Table.name) before after ∧
      (plain → (∀ constraint ∈ before.constraints, constraint.target ∈ tables.map Table.name →
          constraint.holder = constraint.target) →
        created = tables ∧
          ((∀ table ∈ tables, snapshot.contains table.name → table.name ∈ before.tables) →
            failedSteps events = [])) := by
  induction rebuilt generalizing before with
  | nil =>
    cases follows
    exact ⟨.refl _ [], fun _ _ => ⟨rfl, fun _ => rfl⟩⟩
  | @granted tables created events table dropped rest ih =>
    rw [List.map_cons, List.nodup_cons] at distinct
    obtain ⟨middle, closedMiddle, first, later, plainFirst⟩ := follows.rebuild sound closed
    obtain ⟨others, plainLater⟩ := ih later closedMiddle distinct.2
    have apart : ∀ name ∈ [table.name], name ∉ tables.map Table.name := by
      intro name inside
      rw [List.mem_singleton.1 inside]
      exact distinct.1
    refine ⟨first.trans others apart, fun only unreferenced => ?_⟩
    obtain ⟨same, none⟩ := plainLater only fun constraint inside target =>
      unreferenced constraint (first.fewer inside) (List.mem_cons_of_mem _ target)
    refine ⟨by rw [same], fun recorded => ?_⟩
    have alone := fun constraint inside (target : constraint.target = table.name) =>
      (unreferenced constraint inside (target ▸ List.mem_cons_self)).trans target
    rw [(plainFirst only alone).2 (recorded table List.mem_cons_self)]
    refine none fun other inside held => ?_
    have differ : other.name ∉ [table.name] := fun same =>
      distinct.1 (List.mem_singleton.1 same ▸ List.mem_map_of_mem inside)
    exact (first.others _ differ).2 (recorded other (List.mem_cons_of_mem _ inside) held)
  | @refused tables created events table dropped cause rest ih =>
    rw [List.map_cons, List.nodup_cons] at distinct
    obtain ⟨middle, closedMiddle, first, later, plainFirst⟩ := follows.rebuild sound closed
    obtain ⟨others, -⟩ := ih later closedMiddle distinct.2
    refine ⟨first.trans others fun name inside => absurd inside List.not_mem_nil, ?_⟩
    intro only unreferenced
    have alone := fun constraint inside (target : constraint.target = table.name) =>
      (unreferenced constraint inside (target ▸ List.mem_cons_self)).trans target
    exact absurd (plainFirst only alone).1 (Option.some_ne_none cause)

end Migration

end SqlCraft
