/-
**Traces: the shape of a migration, whatever the database answers.**

The answers of a database decide which steps are granted, and nothing else: the events of a run are
attempts at steps that the snapshot and the declared tables fix, and the tables that count as created
are those whose `CREATE TABLE` was granted.

* `Performed`, `Rebuilt`, `GroupTrace`, `RunTrace` — the events of single phases, of a group and of
  a run, with what they leave behind;
* `Logged` — the calls behind the events, and the answers they report;
* `Logged.calls`, `Logged.statements` — which calls were made, and which of them were refused;
* `runGroups_trace` — every run over groups has such a trace;
* `migrate_store`, `migrate_memory` — so has every migration of sound tables, and the store holds its
  snapshot.
-/

import SqlCraft.Migration.Run
import SqlCraft.Proofs.Session

namespace SqlCraft

/-- The call that a step makes. -/
def Step.call (step : Step) : Call := .execute ⟨step.sql, []⟩

/-- Why a database refuses a step behind a history, if it does. -/
def Database.refusal? (database : Database) (history : History) (step : Step) : Option String :=
  match database.answer history step.call with
  | .ok _ => none
  | .error reason => some (RunError.execution reason).message

namespace Migration

/-- What comes of a step: why it was refused, if it was, and the history behind it. Without a
database it is granted and not executed. -/
def attempt (database : Option Database) (history : History) (step : Step) :
    Option String × History :=
  match database with
  | none => (none, history)
  | some database => (database.refusal? history step, history ++ [step.call])

theorem perform_eq (database : Option Database) (step : Step) (history : History) :
    perform database step history =
      ((.attempted step (attempt database history step).1,
        (attempt database history step).1.isNone), (attempt database history step).2) := by
  cases database with
  | none => rfl
  | some database =>
    have queried : Client.query database ⟨step.sql, []⟩ history =
        (Client.outcome (database.answer history step.call), history ++ [step.call]) := rfl
    simp only [perform, attempt, Database.refusal?, Session.bind_apply, queried]
    cases database.answer history step.call with
    | ok rows => rfl
    | error reason => rfl

/-- The events of a run from one history to another: each attempt reports what came of it. -/
inductive Logged (database : Option Database) : History → List MigrationEvent → History → Prop where
  | done (history : History) : Logged database history [] history
  | unchanged {history after : History} {events : List MigrationEvent} (table : String)
      (rest : Logged database history events after) :
      Logged database history (.unchanged table :: events) after
  | rebuilding {history after : History} {events : List MigrationEvent} (table : String)
      (rest : Logged database history events after) :
      Logged database history (.rebuilding table :: events) after
  | created {history after : History} {events : List MigrationEvent} (table : String)
      (rest : Logged database history events after) :
      Logged database history (.created table :: events) after
  | attempted {history after : History} {events : List MigrationEvent} (step : Step)
      (rest : Logged database (attempt database history step).2 events after) :
      Logged database history (.attempted step (attempt database history step).1 :: events) after

/-- Runs one after the other are one run. -/
theorem Logged.append {database : Option Database} {before middle after : History}
    {first second : List MigrationEvent} (left : Logged database before first middle)
    (right : Logged database middle second after) :
    Logged database before (first ++ second) after := by
  induction left with
  | done => exact right
  | unchanged table _ ih => exact .unchanged table (ih right)
  | rebuilding table _ ih => exact .rebuilding table (ih right)
  | created table _ ih => exact .created table (ih right)
  | attempted step _ ih => exact .attempted step (ih right)

theorem Logged.unchangedAll (database : Option Database) (history : History) (tables : List Table) :
    Logged database history (tables.map fun table => .unchanged table.name) history := by
  induction tables with
  | nil => exact .done history
  | cons table rest ih => exact .unchanged table.name ih

theorem Logged.createdAll (database : Option Database) (history : History) (tables : List Table) :
    Logged database history (tables.map fun table => .created table.name) history := by
  induction tables with
  | nil => exact .done history
  | cons table rest ih => exact .created table.name ih

/-- The history grows by the calls of a run, and those that were refused are those that the events
report as failed. -/
theorem Logged.calls {database : Database} {before after : History} {events : List MigrationEvent}
    (logged : Logged (some database) before events after) :
    ∃ calls, after = before ++ calls ∧ database.refused before calls =
      (MigrationReport.failures ⟨events⟩).map fun failure => failure.step.call := by
  induction logged with
  | done history => exact ⟨[], (List.append_nil history).symm, rfl⟩
  | unchanged table _ ih => exact ih
  | rebuilding table _ ih => exact ih
  | created table _ ih => exact ih
  | @attempted history after events step _ ih =>
    obtain ⟨calls, grown, refused⟩ := ih
    refine ⟨step.call :: calls, by simpa [attempt] using grown, ?_⟩
    simp only [attempt] at refused
    simp only [Database.refused, attempt, Database.refusal?]
    cases database.answer history step.call with
    | ok rows => exact refused
    | error reason => exact congrArg (step.call :: ·) refused

/-- The history grows by the statements that a run reports, in order. -/
theorem Logged.statements {database : Database} {before after : History}
    {events : List MigrationEvent} (logged : Logged (some database) before events after) :
    after = before ++ (MigrationReport.statements ⟨events⟩).map fun sql => .execute ⟨sql, []⟩ := by
  induction logged with
  | done history => exact (List.append_nil history).symm
  | unchanged table _ ih => exact ih
  | rebuilding table _ ih => exact ih
  | created table _ ih => exact ih
  | @attempted history after events step _ ih =>
    rw [ih]
    exact List.append_assoc _ _ _

/-! ### Phases -/

/-- One step was attempted for each item; the events, and the items whose step was granted. -/
inductive Performed {α : Type} (step : α → Step) :
    List α → List MigrationEvent → List α → Prop where
  | nil : Performed step [] [] []
  | granted {items kept : List α} {events : List MigrationEvent} (item : α)
      (rest : Performed step items events kept) :
      Performed step (item :: items) (.attempted (step item) none :: events) (item :: kept)
  | refused {items kept : List α} {events : List MigrationEvent} (item : α) (cause : String)
      (rest : Performed step items events kept) :
      Performed step (item :: items) (.attempted (step item) (some cause) :: events) kept

/-- Items whose step was granted are among the items. -/
theorem Performed.kept_subset {α : Type} {step : α → Step} {items kept : List α}
    {events : List MigrationEvent} (performed : Performed step items events kept) :
    kept.Sublist items := by
  induction performed with
  | nil => exact .slnil
  | granted item _ ih => exact ih.cons_cons item
  | refused item _ _ ih => exact ih.cons item

/-- Attempts at the steps of items are attempts for the items. -/
theorem Performed.of_map {α : Type} {step : α → Step} {items : List α} {kept : List Step}
    {events : List MigrationEvent} (performed : Performed id (items.map step) events kept) :
    ∃ granted, Performed step items events granted := by
  induction items generalizing events kept with
  | nil =>
    cases performed
    exact ⟨[], .nil⟩
  | cons item rest ih =>
    cases performed with
    | granted _ later =>
      obtain ⟨granted, performed⟩ := ih later
      exact ⟨item :: granted, .granted item performed⟩
    | refused _ cause later =>
      obtain ⟨granted, performed⟩ := ih later
      exact ⟨granted, .refused item cause performed⟩

/-- Tables were dropped and created; the events, and the tables that were created. -/
inductive Rebuilt (snapshot : Snapshot) : List Table → List MigrationEvent → List Table → Prop where
  | nil : Rebuilt snapshot [] [] []
  | granted {tables created : List Table} {events : List MigrationEvent} (table : Table)
      (dropped : Option String) (rest : Rebuilt snapshot tables events created) :
      Rebuilt snapshot (table :: tables)
        (.rebuilding table.name :: .attempted (dropStep snapshot table) dropped ::
          .attempted (createStep table) none :: events) (table :: created)
  | refused {tables created : List Table} {events : List MigrationEvent} (table : Table)
      (dropped : Option String) (cause : String) (rest : Rebuilt snapshot tables events created) :
      Rebuilt snapshot (table :: tables)
        (.rebuilding table.name :: .attempted (dropStep snapshot table) dropped ::
          .attempted (createStep table) (some cause) :: events) created

theorem Rebuilt.created_subset {snapshot : Snapshot} {tables created : List Table}
    {events : List MigrationEvent} (rebuilt : Rebuilt snapshot tables events created) :
    created.Sublist tables := by
  induction rebuilt with
  | nil => exact .slnil
  | granted table _ _ ih => exact ih.cons_cons table
  | refused table _ _ _ ih => exact ih.cons table

theorem performEach_trace {α : Type} (database : Option Database) (step : α → Step)
    (items : List α) (history : History) :
    ∃ events kept after, performEach database step items history = ((events, kept), after) ∧
      Performed step items events kept ∧ Logged database history events after := by
  induction items generalizing history with
  | nil => exact ⟨[], [], history, rfl, .nil, .done history⟩
  | cons item rest ih =>
    obtain ⟨events, kept, after, ran, performed, logged⟩ :=
      ih (attempt database history (step item)).2
    have unfolded : performEach database step (item :: rest) history =
        ((.attempted (step item) (attempt database history (step item)).1 :: events,
          if (attempt database history (step item)).1.isNone then item :: kept else kept),
          after) := by
      simp only [performEach, Session.bind_apply, perform_eq, ran, Session.pure_apply]
    refine ⟨_, _, _, unfolded, ?_, .attempted (step item) logged⟩
    cases (attempt database history (step item)).1 with
    | none => exact .granted item performed
    | some cause => exact .refused item cause performed

theorem performAll_apply (database : Option Database) (steps : List Step) (history : History) :
    performAll database steps history =
      ((performEach database id steps history).1.1, (performEach database id steps history).2) := by
  induction steps generalizing history with
  | nil => rfl
  | cons step rest ih =>
    have unfolded : performAll database (step :: rest) = (do
        let event ← Prod.fst <$> perform database step
        let events ← performAll database rest
        return event :: events) := by
      unfold performAll
      rw [List.mapM_cons]
    rw [unfolded]
    simp only [performEach, Session.bind_apply, Session.map_apply, Session.pure_apply, ih, id]

theorem rebuild_trace (database : Option Database) (snapshot : Snapshot) (tables : List Table)
    (history : History) :
    ∃ events created after, rebuild database snapshot tables history = ((events, created), after) ∧
      Rebuilt snapshot tables events created ∧ Logged database history events after := by
  induction tables generalizing history with
  | nil => exact ⟨[], [], history, rfl, .nil, .done history⟩
  | cons table rest ih =>
    let middle := (attempt database history (dropStep snapshot table)).2
    obtain ⟨events, created, after, ran, rebuilt, logged⟩ :=
      ih (attempt database middle (createStep table)).2
    have unfolded : rebuild database snapshot (table :: rest) history =
        ((.rebuilding table.name ::
            .attempted (dropStep snapshot table)
              (attempt database history (dropStep snapshot table)).1 ::
            .attempted (createStep table) (attempt database middle (createStep table)).1 :: events,
          if (attempt database middle (createStep table)).1.isNone then table :: created
          else created), after) := by
      simp only [rebuild, Session.bind_apply, perform_eq, Session.pure_apply]
      rw [ran]
    refine ⟨_, _, _, unfolded, ?_, .rebuilding table.name (.attempted _ (.attempted _ logged))⟩
    cases (attempt database middle (createStep table)).1 with
    | none => exact .granted table _ rebuilt
    | some cause => exact .refused table _ cause rebuilt

/-! ### Groups -/

/-- The tables of a group that the snapshot does not hold as they are declared. -/
def changedTables (snapshot : Snapshot) (group : TableGroup) : List Table :=
  group.filter snapshot.isChanged

/-- The tables of a group that the snapshot holds as they are declared. -/
def keptTables (snapshot : Snapshot) (group : TableGroup) : List Table :=
  group.filter fun table => !snapshot.isChanged table

theorem changedTables_subset (snapshot : Snapshot) (group : TableGroup) :
    changedTables snapshot group ⊆ group := fun _ inside => (List.mem_filter.1 inside).1

theorem changedTables_nodup (snapshot : Snapshot) {group : TableGroup}
    (distinct : (group.map Table.name).Nodup) :
    ((changedTables snapshot group).map Table.name).Nodup :=
  distinct.sublist (List.filter_sublist.map Table.name)

/-- A run over a group: its events, and the tables that were created. -/
inductive GroupTrace (snapshot : Snapshot) (group : TableGroup) :
    List MigrationEvent → List Table → Prop where
  | phases {unlinking detaching rebuilding linking attaching : List MigrationEvent}
      {unlinked linked attached : List Step} {detached : List HeldKey} {created : List Table}
      (unlinks : Performed id (ownKeySteps snapshot (changedTables snapshot group)) unlinking unlinked)
      (detaches : Performed HeldKey.dropStep (inboundKeys snapshot (changedTables snapshot group))
        detaching detached)
      (rebuilds : Rebuilt snapshot (changedTables snapshot group) rebuilding created)
      (links : Performed id (linkSteps created) linking linked)
      (attaches : Performed id (detached.map HeldKey.createStep) attaching attached) :
      GroupTrace snapshot group
        ((keptTables snapshot group).map (fun table => .unchanged table.name) ++
          (unlinking ++ detaching ++ rebuilding ++ linking ++ attaching) ++
          created.map (fun table => .created table.name)) created

/-- Only changed tables are created, each at most once. -/
theorem GroupTrace.created_subset {snapshot : Snapshot} {group : TableGroup} {created : List Table}
    {events : List MigrationEvent} (trace : GroupTrace snapshot group events created) :
    created.Sublist (changedTables snapshot group) := by
  cases trace with
  | phases _ _ rebuilds _ _ => exact rebuilds.created_subset

theorem inboundKeys_nil (snapshot : Snapshot) : inboundKeys snapshot [] = [] := by
  simp [inboundKeys]

/-- A run over a group has a trace, and the created tables are recorded. -/
theorem runGroup_trace (database : Option Database) (group : TableGroup) (snapshot : Snapshot)
    (history : History) :
    ∃ events created after,
      runGroup database group snapshot history = ((events, record snapshot created), after) ∧
      GroupTrace snapshot group events created ∧ Logged database history events after := by
  by_cases none : (changedTables snapshot group).isEmpty
  · have idle : runGroup database group snapshot history =
        (((keptTables snapshot group).map (fun table => .unchanged table.name), snapshot),
          history) := by
      unfold runGroup
      rw [← changedTables, if_pos none]
      rfl
    have trace : GroupTrace snapshot group
        ((keptTables snapshot group).map fun table => .unchanged table.name) [] := by
      have empty := List.isEmpty_iff.1 none
      have phases : GroupTrace snapshot group _ [] :=
        .phases (by rw [empty]; exact .nil) (by rw [empty, inboundKeys_nil]; exact .nil)
          (by rw [empty]; exact .nil) .nil .nil
      simpa using phases
    exact ⟨_, [], _, idle, trace, .unchangedAll database history _⟩
  · obtain ⟨unlinking, unlinked, first, ranFirst, unlinks, logFirst⟩ :=
      performEach_trace database id (ownKeySteps snapshot (changedTables snapshot group)) history
    obtain ⟨detaching, detached, second, ranSecond, detaches, logSecond⟩ :=
      performEach_trace database HeldKey.dropStep
        (inboundKeys snapshot (changedTables snapshot group)) first
    obtain ⟨rebuilding, created, third, ranThird, rebuilds, logThird⟩ :=
      rebuild_trace database snapshot (changedTables snapshot group) second
    obtain ⟨linking, linked, fourth, ranFourth, links, logFourth⟩ :=
      performEach_trace database id (linkSteps created) third
    obtain ⟨attaching, attached, fifth, ranFifth, attaches, logFifth⟩ :=
      performEach_trace database id (detached.map HeldKey.createStep) fourth
    have rebuilt : rebuildGroup database snapshot (changedTables snapshot group) history =
        ((unlinking ++ detaching ++ rebuilding ++ linking ++ attaching, created), fifth) := by
      unfold rebuildGroup
      simp only [Session.bind_apply, Session.pure_apply, performAll_apply, ranFirst, ranSecond,
        ranThird, ranFourth, ranFifth]
    have ran : runGroup database group snapshot history =
        (((keptTables snapshot group).map (fun table => .unchanged table.name) ++
          (unlinking ++ detaching ++ rebuilding ++ linking ++ attaching) ++
          created.map (fun table => .created table.name), record snapshot created), fifth) := by
      unfold runGroup
      rw [← changedTables, if_neg none]
      simp only [Session.bind_apply, Session.pure_apply, rebuilt]
      rfl
    have logged := (((logFirst.append logSecond).append logThird).append logFourth).append logFifth
    exact ⟨_, created, fifth, ran, .phases unlinks detaches rebuilds links attaches,
      ((Logged.unchangedAll database history _).append logged).append (.createdAll database fifth _)⟩

/-! ### Views of a trace -/

@[simp] theorem created_append (first second : List MigrationEvent) :
    MigrationReport.created ⟨first ++ second⟩ =
      MigrationReport.created ⟨first⟩ ++ MigrationReport.created ⟨second⟩ :=
  List.filterMap_append

@[simp] theorem unchanged_append (first second : List MigrationEvent) :
    MigrationReport.unchanged ⟨first ++ second⟩ =
      MigrationReport.unchanged ⟨first⟩ ++ MigrationReport.unchanged ⟨second⟩ :=
  List.filterMap_append

@[simp] theorem statements_append (first second : List MigrationEvent) :
    MigrationReport.statements ⟨first ++ second⟩ =
      MigrationReport.statements ⟨first⟩ ++ MigrationReport.statements ⟨second⟩ :=
  List.filterMap_append

@[simp] theorem failures_append (first second : List MigrationEvent) :
    MigrationReport.failures ⟨first ++ second⟩ =
      MigrationReport.failures ⟨first⟩ ++ MigrationReport.failures ⟨second⟩ :=
  List.filterMap_append

theorem created_keptTables (tables : List Table) :
    MigrationReport.created ⟨tables.map fun table => .unchanged table.name⟩ = [] := by
  induction tables with
  | nil => rfl
  | cons table rest ih => exact ih

theorem created_created (tables : List Table) :
    MigrationReport.created ⟨tables.map fun table => .created table.name⟩ =
      tables.map Table.name := by
  induction tables with
  | nil => rfl
  | cons table rest ih => exact congrArg (table.name :: ·) ih

theorem unchanged_keptTables (tables : List Table) :
    MigrationReport.unchanged ⟨tables.map fun table => .unchanged table.name⟩ =
      tables.map Table.name := by
  induction tables with
  | nil => rfl
  | cons table rest ih => exact congrArg (table.name :: ·) ih

theorem unchanged_created (tables : List Table) :
    MigrationReport.unchanged ⟨tables.map fun table => .created table.name⟩ = [] := by
  induction tables with
  | nil => rfl
  | cons table rest ih => exact ih

/-- The steps of a run that failed. -/
def failedSteps (events : List MigrationEvent) : List Step :=
  (MigrationReport.failures ⟨events⟩).map StepFailure.step

@[simp] theorem failedSteps_append (first second : List MigrationEvent) :
    failedSteps (first ++ second) = failedSteps first ++ failedSteps second := by
  simp [failedSteps]

@[simp] theorem failedSteps_keptTables (tables : List Table) :
    failedSteps (tables.map fun table => .unchanged table.name) = [] := by
  simp [failedSteps, MigrationReport.failures]

@[simp] theorem failedSteps_created (tables : List Table) :
    failedSteps (tables.map fun table => .created table.name) = [] := by
  simp [failedSteps, MigrationReport.failures]

/-- Attempts neither create nor keep a table. -/
theorem Performed.views {α : Type} {step : α → Step} {items kept : List α}
    {events : List MigrationEvent} (performed : Performed step items events kept) :
    MigrationReport.created ⟨events⟩ = [] ∧ MigrationReport.unchanged ⟨events⟩ = [] := by
  induction performed with
  | nil => exact ⟨rfl, rfl⟩
  | granted item _ ih => exact ih
  | refused item cause _ ih => exact ih

theorem Rebuilt.views {snapshot : Snapshot} {tables created : List Table}
    {events : List MigrationEvent} (rebuilt : Rebuilt snapshot tables events created) :
    MigrationReport.created ⟨events⟩ = [] ∧ MigrationReport.unchanged ⟨events⟩ = [] := by
  induction rebuilt with
  | nil => exact ⟨rfl, rfl⟩
  | granted table dropped _ ih => exact ih
  | refused table dropped cause _ ih => exact ih

/-- A run over a group reports the tables that it created and those that it left alone. -/
theorem GroupTrace.views {snapshot : Snapshot} {group : TableGroup} {created : List Table}
    {events : List MigrationEvent} (trace : GroupTrace snapshot group events created) :
    MigrationReport.created ⟨events⟩ = created.map Table.name ∧
      MigrationReport.unchanged ⟨events⟩ = (keptTables snapshot group).map Table.name := by
  cases trace with
  | phases unlinks detaches rebuilds links attaches =>
    simp [unlinks.views, detaches.views, rebuilds.views, links.views, attaches.views,
      created_keptTables, created_created, unchanged_keptTables, unchanged_created]

/-! ### Runs -/

/-- A run over groups: its events, and the snapshot behind it. -/
inductive RunTrace : Snapshot → List TableGroup → List MigrationEvent → Snapshot → Prop where
  | done (snapshot : Snapshot) : RunTrace snapshot [] [] snapshot
  | group {snapshot final : Snapshot} {group : TableGroup} {groups : List TableGroup}
      {first later : List MigrationEvent} {created : List Table}
      (here : GroupTrace snapshot group first created)
      (rest : RunTrace (record snapshot created) groups later final) :
      RunTrace snapshot (group :: groups) (first ++ later) final

/-- A run that creates nothing leaves the snapshot as it was. -/
theorem RunTrace.final_eq {snapshot final : Snapshot} {groups : List TableGroup}
    {events : List MigrationEvent} (trace : RunTrace snapshot groups events final)
    (none : MigrationReport.created ⟨events⟩ = []) : final = snapshot := by
  induction trace with
  | done => rfl
  | group here rest ih =>
    rw [created_append, here.views.1] at none
    obtain ⟨empty, later⟩ := List.append_eq_nil_iff.1 none
    have same := ih later
    rw [List.map_eq_nil_iff.1 empty] at same
    exact same

/-- **Every run over groups has a trace.** -/
theorem runGroups_trace (database : Option Database) (groups : List TableGroup)
    (snapshot : Snapshot) (history : History) :
    ∃ events final after, runGroups database groups snapshot history = ((events, final), after) ∧
      RunTrace snapshot groups events final ∧ Logged database history events after := by
  induction groups generalizing snapshot history with
  | nil => exact ⟨[], snapshot, history, rfl, .done snapshot, .done history⟩
  | cons group rest ih =>
    obtain ⟨first, created, middle, ranFirst, here, logFirst⟩ :=
      runGroup_trace database group snapshot history
    obtain ⟨later, final, after, ranLater, trace, logLater⟩ := ih (record snapshot created) middle
    have ran : runGroups database (group :: rest) snapshot history =
        ((first ++ later, final), after) := by
      simp only [runGroups, Session.bind_apply, ranFirst, ranLater, Session.pure_apply]
    exact ⟨_, final, after, ran, .group here trace, logFirst.append logLater⟩

theorem validateAll_ok {tables : List Table} (valid : ∀ table ∈ tables, table.validate = .ok ()) :
    Table.validateAll tables = .ok () := by
  induction tables with
  | nil => rfl
  | cons table rest ih =>
    have first := valid table List.mem_cons_self
    have others := ih fun other inside => valid other (List.mem_cons_of_mem _ inside)
    show (table.validate >>= fun _ => Table.validateAll rest) = .ok ()
    rw [first]
    exact others

/-- A migration of sound tables reports a run, and its snapshot is saved if a table was created. -/
theorem migrate_store (database : Database) {groups : List TableGroup} {store : Store}
    (writable : ∀ snapshot, (store.save? snapshot).isSome) (history : History)
    (valid : ∀ table ∈ groups.flatten, table.validate = .ok ()) :
    ∃ events final saved after,
      migrate (some database) groups store history = ((.ok ⟨events⟩, saved), after) ∧
      RunTrace store.load groups events final ∧ Logged (some database) history events after ∧
      (MigrationReport.created ⟨events⟩ = [] → saved = store) ∧
      (MigrationReport.created ⟨events⟩ ≠ [] → store.save? final = some saved) := by
  obtain ⟨events, final, after, ran, trace, logged⟩ :=
    runGroups_trace (some database) groups store.load history
  obtain ⟨stored, saves⟩ := Option.isSome_iff_exists.1 (writable final)
  unfold migrate
  rw [validateAll_ok valid]
  simp only [Session.bind_apply, ran, saves, Option.isNone_some, Bool.false_or]
  by_cases none : MigrationReport.created ⟨events⟩ = []
  · rw [none]
    exact ⟨events, final, store, after, rfl, trace, logged, fun _ => rfl, absurd none⟩
  · rw [List.isEmpty_eq_false_iff.2 none]
    exact ⟨events, final, stored, after, rfl, trace, logged, fun empty => absurd empty none,
      fun _ => saves⟩

/-- A store in memory holds the snapshot of the run. -/
theorem migrate_memory (database : Database) {groups : List TableGroup} (snapshot : Snapshot)
    (history : History) (valid : ∀ table ∈ groups.flatten, table.validate = .ok ()) :
    ∃ events final after,
      migrate (some database) groups (.memory snapshot) history =
        ((.ok ⟨events⟩, .memory final), after) ∧
      RunTrace snapshot groups events final ∧ Logged (some database) history events after := by
  have writable : ∀ stored, ((Store.memory snapshot).save? stored).isSome := fun _ => rfl
  obtain ⟨events, final, saved, after, ran, trace, logged, kept, saves⟩ :=
    migrate_store database writable history valid
  have holds : saved = .memory final := by
    by_cases none : MigrationReport.created ⟨events⟩ = []
    · have same : final = snapshot := trace.final_eq none
      rw [kept none, same]
    · exact (Option.some.inj (saves none)).symm
  exact ⟨events, final, after, holds ▸ ran, trace, logged⟩

end Migration

end SqlCraft
