/-
**Refusals: which creations failed.**

A statement says which table it creates, so the failed steps of a run tell which creations failed.
Only changed tables are created, and those that are created are those whose creation did not fail:

* `refusedTables` — the tables whose creation a run reports as failed;
* `CreationsAmong` — all creations that failed are those of given tables;
* `Rebuilt.created_eq`, `GroupTrace.created_eq` — what a phase and a group do create.
-/

import SqlCraft.Proofs.Migration.Command
import SqlCraft.Proofs.Migration.Trace

namespace SqlCraft

/-- The table that a command creates. -/
def Command.created? : Command → Option String
  | .createTable name => some name
  | _ => none

/-- The table that a step creates, as its statement says. -/
def Step.created? (step : Step) : Option String := (Command.read? step.sql).bind Command.created?

namespace Migration

theorem created?_createStep (table : Table) : (createStep table).created? = some table.name := by
  simp [Step.created?, createStep, Command.created?]

theorem created?_dropStep (snapshot : Snapshot) (table : Table) :
    (dropStep snapshot table).created? = none := by
  unfold dropStep
  cases snapshot.get? table.name with
  | none => simp [Step.created?, Command.created?]
  | some recorded => simp [Step.created?, Command.created?]

theorem created?_dropKey (held : HeldKey) : held.dropStep.created? = none := by
  simp [Step.created?, HeldKey.dropStep, Command.created?]

theorem created?_createKey (held : HeldKey) : held.createStep.created? = none := by
  simp [Step.created?, HeldKey.createStep, Command.created?]

theorem created?_ownKeySteps {snapshot : Snapshot} {changed : List Table} {step : Step}
    (inside : step ∈ ownKeySteps snapshot changed) : step.created? = none := by
  obtain ⟨table, -, inside⟩ := List.mem_flatMap.1 inside
  cases recorded : snapshot.get? table.name with
  | none =>
    rw [recorded] at inside
    cases inside
  | some previous =>
    rw [recorded] at inside
    obtain ⟨sql, written, rfl⟩ := List.mem_map.1 inside
    obtain ⟨⟨column, key⟩, -, rfl⟩ := List.mem_map.1 written
    simp [Step.created?, Command.created?]

theorem created?_linkSteps {tables : List Table} {step : Step} (inside : step ∈ linkSteps tables) :
    step.created? = none := by
  obtain ⟨table, -, inside⟩ := List.mem_flatMap.1 inside
  obtain ⟨sql, written, rfl⟩ := List.mem_map.1 inside
  obtain ⟨⟨column, key⟩, -, rfl⟩ := List.mem_map.1 written
  simp [Step.created?, Command.created?]

/-! ### Refused creations -/

/-- The tables whose creation failed. -/
def refusedTables (events : List MigrationEvent) : List String :=
  (failedSteps events).filterMap Step.created?

@[simp] theorem refusedTables_append (first second : List MigrationEvent) :
    refusedTables (first ++ second) = refusedTables first ++ refusedTables second := by
  simp [refusedTables]

/-- What is refused counts only if it was a creation. -/
theorem refusedTables_attempted (step : Step) (cause : Option String)
    (events : List MigrationEvent) : refusedTables (.attempted step cause :: events) =
      (if cause.isSome then step.created? else none).toList ++ refusedTables events := by
  cases cause with
  | none => rfl
  | some cause =>
    show ((step :: failedSteps events).filterMap Step.created?) = _
    cases created : step.created? with
    | none => simp [created, refusedTables]
    | some name => simp [created, refusedTables]

/-- Every creation that failed is that of one of the given tables. -/
def CreationsAmong (tables : List Table) (events : List MigrationEvent) : Prop :=
  ∀ step ∈ failedSteps events, step.created? = none ∨ ∃ table ∈ tables, step = createStep table

theorem CreationsAmong.of_nil {events : List MigrationEvent} (none : failedSteps events = [])
    (tables : List Table) : CreationsAmong tables events := by
  intro step inside
  rw [none] at inside
  cases inside

theorem CreationsAmong.append {tables : List Table} {first second : List MigrationEvent}
    (left : CreationsAmong tables first) (right : CreationsAmong tables second) :
    CreationsAmong tables (first ++ second) := by
  intro step inside
  rw [failedSteps_append] at inside
  exact (List.mem_append.1 inside).elim (left step) (right step)

theorem CreationsAmong.mono {tables more : List Table} {events : List MigrationEvent}
    (among : CreationsAmong tables events) (subset : tables ⊆ more) :
    CreationsAmong more events := by
  intro step inside
  refine (among step inside).imp id ?_
  rintro ⟨table, within, same⟩
  exact ⟨table, subset within, same⟩

/-- A table whose creation failed is one of the given ones, and its own creation failed. -/
theorem CreationsAmong.exists_of_mem {tables : List Table} {events : List MigrationEvent}
    {name : String} (among : CreationsAmong tables events) (refused : name ∈ refusedTables events) :
    ∃ table ∈ tables, table.name = name ∧ createStep table ∈ failedSteps events := by
  obtain ⟨step, failed, created⟩ := List.mem_filterMap.1 refused
  rcases among step failed with none | ⟨table, inside, rfl⟩
  · rw [none] at created
    cases created
  · rw [created?_createStep] at created
    exact ⟨table, inside, Option.some.inj created, failed⟩

theorem Performed.creationsAmong {α : Type} {step : α → Step} {items kept : List α}
    {events : List MigrationEvent} (performed : Performed step items events kept)
    (apart : ∀ item ∈ items, (step item).created? = none) (tables : List Table) :
    CreationsAmong tables events := by
  induction performed with
  | nil => exact fun step inside => absurd inside List.not_mem_nil
  | granted item _ ih => exact ih fun other inside => apart other (List.mem_cons_of_mem _ inside)
  | refused item cause _ ih =>
    intro made inside
    rcases List.mem_cons.1 inside with rfl | later
    · exact .inl (apart item List.mem_cons_self)
    · exact ih (fun other inside => apart other (List.mem_cons_of_mem _ inside)) made later

theorem Performed.refusedTables_eq {α : Type} {step : α → Step} {items kept : List α}
    {events : List MigrationEvent} (performed : Performed step items events kept)
    (apart : ∀ item ∈ items, (step item).created? = none) : refusedTables events = [] := by
  refine List.eq_nil_iff_forall_not_mem.2 fun name refused => ?_
  obtain ⟨table, inside, -⟩ := (performed.creationsAmong apart []).exists_of_mem refused
  cases inside

theorem Rebuilt.creationsAmong {snapshot : Snapshot} {tables created : List Table}
    {events : List MigrationEvent} (rebuilt : Rebuilt snapshot tables events created) :
    CreationsAmong tables events := by
  have dropping (table : Table) (dropped : Option String) :
      CreationsAmong [] [.attempted (dropStep snapshot table) dropped] := by
    intro step inside
    cases dropped with
    | none => cases inside
    | some cause => exact .inl (List.mem_singleton.1 inside ▸ created?_dropStep snapshot table)
  induction rebuilt with
  | nil => exact fun step inside => absurd inside List.not_mem_nil
  | granted table dropped _ ih =>
    have later := ih.mono (List.subset_cons_self table _)
    exact ((dropping table dropped).mono (List.nil_subset _)).append later
  | @refused tables _ _ table dropped cause _ ih =>
    have creating : CreationsAmong (table :: tables) [.attempted (createStep table) (some cause)] :=
      fun step inside => .inr ⟨table, List.mem_cons_self, List.mem_singleton.1 inside⟩
    have later := ih.mono (List.subset_cons_self table _)
    exact ((dropping table dropped).mono (List.nil_subset _)).append (creating.append later)

/-- What a phase that drops and creates did create is what was not refused. -/
theorem Rebuilt.created_eq {snapshot : Snapshot} {tables created : List Table}
    {events : List MigrationEvent} (rebuilt : Rebuilt snapshot tables events created)
    (distinct : (tables.map Table.name).Nodup) :
    created = tables.filter fun table => table.name ∉ refusedTables events := by
  induction rebuilt with
  | nil => rfl
  | @granted tables created events table dropped rest ih =>
    rw [List.map_cons, List.nodup_cons] at distinct
    have fresh : table.name ∉ refusedTables events := by
      intro refused
      obtain ⟨other, inside, same, -⟩ := rest.creationsAmong.exists_of_mem refused
      exact distinct.1 (same ▸ List.mem_map_of_mem inside)
    have same : refusedTables (.rebuilding table.name :: .attempted (dropStep snapshot table) dropped ::
        .attempted (createStep table) none :: events) = refusedTables events := by
      show refusedTables (.attempted (dropStep snapshot table) dropped ::
        .attempted (createStep table) none :: events) = _
      rw [refusedTables_attempted, created?_dropStep, refusedTables_attempted]
      simp
    rw [same, List.filter_cons, if_pos (by simpa using fresh), ← ih distinct.2]
  | @refused tables created events table dropped cause rest ih =>
    rw [List.map_cons, List.nodup_cons] at distinct
    have more : refusedTables (.rebuilding table.name :: .attempted (dropStep snapshot table) dropped ::
        .attempted (createStep table) (some cause) :: events) =
          table.name :: refusedTables events := by
      show refusedTables (.attempted (dropStep snapshot table) dropped ::
        .attempted (createStep table) (some cause) :: events) = _
      rw [refusedTables_attempted, created?_dropStep, refusedTables_attempted, created?_createStep]
      simp
    rw [more, List.filter_cons, if_neg (by simp), ih distinct.2]
    refine List.filter_congr fun other inside => ?_
    have differ : other.name ≠ table.name := fun same =>
      distinct.1 (same ▸ List.mem_map_of_mem inside)
    simp [differ]

/-! ### Groups -/

/-- What a run over a group did create is what was not refused. -/
theorem GroupTrace.created_eq {snapshot : Snapshot} {group : TableGroup} {created : List Table}
    {events : List MigrationEvent} (trace : GroupTrace snapshot group events created)
    (distinct : (group.map Table.name).Nodup) :
    CreationsAmong (changedTables snapshot group) events ∧
      created = (changedTables snapshot group).filter fun table =>
        table.name ∉ refusedTables events := by
  have among := changedTables_nodup snapshot distinct
  cases trace with
  | @phases unlinking detaching rebuilding linking attaching _ _ _ detached _
      unlinks detaches rebuilds links attaches =>
    have unlinkApart : ∀ step ∈ ownKeySteps snapshot (changedTables snapshot group),
        (id step).created? = none := fun step inside => created?_ownKeySteps inside
    have detachApart : ∀ held ∈ inboundKeys snapshot (changedTables snapshot group),
        held.dropStep.created? = none := fun held _ => created?_dropKey held
    have linkApart : ∀ step ∈ linkSteps created, (id step).created? = none :=
      fun step inside => created?_linkSteps inside
    have attachApart : ∀ step ∈ detached.map HeldKey.createStep, (id step).created? = none := by
      intro step inside
      obtain ⟨held, -, rfl⟩ := List.mem_map.1 inside
      exact created?_createKey held
    have only : refusedTables ((keptTables snapshot group).map (fun table => .unchanged table.name) ++
        (unlinking ++ detaching ++ rebuilding ++ linking ++ attaching) ++
          created.map (fun table => .created table.name)) = refusedTables rebuilding := by
      have kept : refusedTables ((keptTables snapshot group).map fun table =>
          .unchanged table.name) = [] := by simp [refusedTables]
      have made : refusedTables (created.map fun table => .created table.name) = [] := by
        simp [refusedTables]
      simp only [refusedTables_append, kept, made, unlinks.refusedTables_eq unlinkApart,
        detaches.refusedTables_eq detachApart, links.refusedTables_eq linkApart,
        attaches.refusedTables_eq attachApart, List.nil_append, List.append_nil]
    rw [only]
    refine ⟨?_, rebuilds.created_eq among⟩
    have phases := ((((unlinks.creationsAmong unlinkApart (changedTables snapshot group)).append
      (detaches.creationsAmong detachApart _)).append rebuilds.creationsAmong).append
      (links.creationsAmong linkApart _)).append (attaches.creationsAmong attachApart _)
    exact ((CreationsAmong.of_nil (failedSteps_keptTables _) _).append phases).append
      (.of_nil (failedSteps_created created) _)

end Migration

end SqlCraft
