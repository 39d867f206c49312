/-
**A migration reports and saves what happened, and nothing else.**

The calls of a run are the attempts among its events, and the answers are what the events say of them. So
the report lists every statement, and every refusal with its reason; and the snapshot behind a run records
the tables whose creation was granted, each over what its name held before.

* `Database.outcomes` — the calls made behind a history, each with the reason of its refusal;
* `attempts`, `Logged.outcomes` — the attempts of a run are these calls;
* `Step.Concerns` — the statement of a step is about the table that the step is for;
* `RunTrace.records` — the tables that were created, and the snapshot that records them;
* `Tells`, `migrate_tells` — the report and the store behind a migration, with any store;
* `saved_file_forgets` — a default that is not a number makes the saved file unreadable.
-/

import SqlCraft.Proofs.Migration.DryRun
import SqlCraft.Proofs.Migration.Idempotence
import SqlCraft.Proofs.Migration.Saved

namespace SqlCraft

/-! ### Calls and their outcomes -/

namespace Database

variable (database : Database)

/-- Why a call behind a history is refused, if it is. -/
def cause? (history : History) (call : Call) : Option String :=
  match database.answer history call with
  | .ok _ => none
  | .error reason => some (RunError.execution reason).message

/-- The calls made behind a history, each with the reason of its refusal, if it was refused. -/
def outcomes : History → List Call → List (Call × Option String)
  | _, [] => []
  | history, call :: rest =>
    (call, database.cause? history call) :: outcomes (history ++ [call]) rest

/-- The calls that were refused, each with the reason. -/
def refusals (history : History) (calls : List Call) : List (Call × String) :=
  (database.outcomes history calls).filterMap fun outcome =>
    outcome.2.map fun cause => (outcome.1, cause)

/-- The granted calls that create a table. -/
def creations (history : History) (calls : List Call) : List Call :=
  ((database.outcomes history calls).filter fun outcome =>
    outcome.2.isNone && ((Catalog.command? outcome.1).bind Command.created?).isSome).map Prod.fst

end Database

namespace Command

/-- The table that a command is about. -/
def table : Command → String
  | createTable name => name
  | dropTable name _ => name
  | dropConstraint holder _ => holder
  | addConstraint constraint => constraint.holder

/-- The kind of step that a command is made in. -/
def kind : Command → StepKind
  | createTable _ => .createTable
  | dropTable _ _ => .dropTable
  | dropConstraint _ _ => .dropForeignKey
  | addConstraint _ => .createForeignKey

end Command

/-- The statement of a step does what the step is for, to the table of the step or to the one that is
recorded under its name. -/
def Step.Concerns (snapshot : Snapshot) (step : Step) : Prop :=
  ∃ command, Command.read? step.sql = some command ∧ command.kind = step.kind ∧
    (command.table = step.table ∨
      ∃ recorded, snapshot.get? step.table = some recorded ∧ command.table = recorded.name)

namespace Migration

/-! ### Attempts -/

/-- The steps that were attempted, each with the reason of its refusal, if it was refused. -/
def attempts (events : List MigrationEvent) : List (Step × Option String) :=
  events.filterMap fun
    | .attempted step cause => some (step, cause)
    | _ => none

@[simp] theorem attempts_append (first second : List MigrationEvent) :
    attempts (first ++ second) = attempts first ++ attempts second := List.filterMap_append

theorem attempts_keptTables (tables : List Table) :
    attempts (tables.map fun table => .unchanged table.name) = [] := by
  simp [attempts]

theorem attempts_created (tables : List Table) :
    attempts (tables.map fun table => .created table.name) = [] := by
  simp [attempts]

/-- The statements of a report are those of the attempts. -/
theorem statements_eq (events : List MigrationEvent) :
    MigrationReport.statements ⟨events⟩ = (attempts events).map fun attempt => attempt.1.sql := by
  rw [attempts, List.map_filterMap]
  refine List.filterMap_congr fun event _ => ?_
  cases event <;> rfl

/-- The failures of a report are the attempts that were refused. -/
theorem failures_eq (events : List MigrationEvent) :
    MigrationReport.failures ⟨events⟩ = (attempts events).filterMap fun attempt =>
      attempt.2.map fun cause => ⟨attempt.1, cause⟩ := by
  rw [attempts, List.filterMap_filterMap]
  refine List.filterMap_congr fun event _ => ?_
  cases event with
  | attempted step cause => cases cause <;> rfl
  | _ => rfl

/-- **The attempts of a run are its calls**, and the events say what came of them. -/
theorem Logged.outcomes {database : Database} {before after : History} {events : List MigrationEvent}
    (logged : Logged (some database) before events after) : ∃ calls, after = before ++ calls ∧
      calls = (attempts events).map (fun attempt => attempt.1.call) ∧
      database.outcomes before calls =
        (attempts events).map fun attempt => (attempt.1.call, attempt.2) := by
  induction logged with
  | done history => exact ⟨[], (List.append_nil history).symm, rfl, rfl⟩
  | unchanged table _ ih => exact ih
  | rebuilding table _ ih => exact ih
  | created table _ ih => exact ih
  | @attempted history after events step _ ih =>
    obtain ⟨calls, grown, made, outcomes⟩ := ih
    refine ⟨step.call :: calls, by simpa [attempt] using grown, congrArg (step.call :: ·) made, ?_⟩
    exact congrArg ((step.call, database.cause? history step.call) :: ·) outcomes

/-! ### What steps are about -/

theorem Performed.attempts_from {α : Type} {step : α → Step} {items kept : List α}
    {events : List MigrationEvent} (performed : Performed step items events kept) :
    ∀ attempt ∈ attempts events, ∃ item ∈ items, attempt.1 = step item := by
  induction performed with
  | nil => exact List.forall_mem_nil _
  | granted item _ ih | refused item _ _ ih =>
    refine List.forall_mem_cons.2 ⟨⟨item, List.mem_cons_self, rfl⟩, fun attempt later => ?_⟩
    obtain ⟨other, inside, same⟩ := ih attempt later
    exact ⟨other, List.mem_cons_of_mem _ inside, same⟩

theorem Rebuilt.attempts_from {snapshot : Snapshot} {tables created : List Table}
    {events : List MigrationEvent} (rebuilt : Rebuilt snapshot tables events created) :
    ∀ attempt ∈ attempts events, ∃ table ∈ tables,
      attempt.1 = dropStep snapshot table ∨ attempt.1 = createStep table := by
  induction rebuilt with
  | nil => exact List.forall_mem_nil _
  | granted table _ _ ih | refused table _ _ _ ih =>
    refine List.forall_mem_cons.2 ⟨⟨table, List.mem_cons_self, .inl rfl⟩,
      List.forall_mem_cons.2 ⟨⟨table, List.mem_cons_self, .inr rfl⟩, fun attempt later => ?_⟩⟩
    obtain ⟨other, inside, same⟩ := ih attempt later
    exact ⟨other, List.mem_cons_of_mem _ inside, same⟩

section Concerns

variable {snapshot : Snapshot}

theorem concerns_ownKeySteps {changed : List Table} {step : Step}
    (inside : step ∈ ownKeySteps snapshot changed) : step.Concerns snapshot := by
  obtain ⟨table, -, inside⟩ := List.mem_flatMap.1 inside
  cases found : snapshot.get? table.name with
  | none =>
    rw [found] at inside
    cases inside
  | some recorded =>
    rw [found] at inside
    obtain ⟨sql, written, rfl⟩ := List.mem_map.1 inside
    obtain ⟨⟨column, key⟩, -, rfl⟩ := List.mem_map.1 written
    exact ⟨_, Command.read?_dropForeignKeySql _ key, rfl, .inr ⟨recorded, found, rfl⟩⟩

theorem concerns_dropKey (held : HeldKey) : held.dropStep.Concerns snapshot :=
  ⟨_, held.read_dropStep, rfl, .inl rfl⟩

theorem concerns_createKey (held : HeldKey) : held.createStep.Concerns snapshot :=
  ⟨_, held.read_createStep, rfl, .inl rfl⟩

theorem concerns_dropStep (table : Table) : (dropStep snapshot table).Concerns snapshot := by
  unfold dropStep
  cases found : snapshot.get? table.name with
  | none => exact ⟨_, Command.read?_dropIfExistsSql table, rfl, .inl rfl⟩
  | some recorded => exact ⟨_, Command.read?_dropSql recorded, rfl, .inr ⟨recorded, found, rfl⟩⟩

theorem concerns_createStep (table : Table) : (createStep table).Concerns snapshot :=
  ⟨_, Command.read?_createSql table, rfl, .inl rfl⟩

theorem concerns_linkSteps {tables : List Table} {step : Step} (inside : step ∈ linkSteps tables) :
    step.Concerns snapshot := by
  rw [linkSteps_eq] at inside
  obtain ⟨held, -, rfl⟩ := List.mem_map.1 inside
  exact concerns_createKey held

/-- The steps of a group do what they are for. -/
theorem GroupTrace.concerns {group : TableGroup} {created : List Table} {events : List MigrationEvent}
    (trace : GroupTrace snapshot group events created) :
    ∀ attempt ∈ attempts events, attempt.1.Concerns snapshot := by
  cases trace with
  | phases unlinks detaches rebuilds links attaches =>
    simp only [attempts_append, attempts_keptTables, attempts_created, List.nil_append,
      List.append_nil, List.forall_mem_append]
    refine ⟨⟨⟨⟨?_, ?_⟩, ?_⟩, ?_⟩, ?_⟩ <;> intro attempt made
    · obtain ⟨step, inside, same⟩ := unlinks.attempts_from attempt made
      exact same ▸ concerns_ownKeySteps inside
    · obtain ⟨held, -, same⟩ := detaches.attempts_from attempt made
      exact same ▸ concerns_dropKey held
    · obtain ⟨table, -, same | same⟩ := rebuilds.attempts_from attempt made
      · exact same ▸ concerns_dropStep table
      · exact same ▸ concerns_createStep table
    · obtain ⟨step, inside, same⟩ := links.attempts_from attempt made
      exact same ▸ concerns_linkSteps inside
    · obtain ⟨step, inside, same⟩ := attaches.attempts_from attempt made
      obtain ⟨held, -, rfl⟩ := List.mem_map.1 inside
      exact same ▸ concerns_createKey held

/-- What is about a table that was created before is about the table itself. -/
theorem concerns_of_record {tables : List Table} {step : Step}
    (concerns : step.Concerns (record snapshot tables)) : step.Concerns snapshot := by
  obtain ⟨command, read, kind, same | ⟨recorded, found, same⟩⟩ := concerns
  · exact ⟨command, read, kind, .inl same⟩
  · rcases get?_record_cases found with ⟨-, named⟩ | ⟨-, earlier⟩
    · exact ⟨command, read, kind, .inl (same.trans named)⟩
    · exact ⟨command, read, kind, .inr ⟨recorded, earlier, same⟩⟩

/-- **The steps of a run do what they are for**, to declared tables or to those recorded before. -/
theorem RunTrace.concerns {final : Snapshot} {groups : List TableGroup} {events : List MigrationEvent}
    (trace : RunTrace snapshot groups events final) :
    ∀ attempt ∈ attempts events, attempt.1.Concerns snapshot := by
  induction trace with
  | done => exact List.forall_mem_nil _
  | group here rest ih =>
    rw [attempts_append, List.forall_mem_append]
    exact ⟨here.concerns, fun attempt made => concerns_of_record (ih attempt made)⟩

end Concerns

/-! ### Creations -/

/-- The steps that created a table. -/
def grantedCreations (events : List MigrationEvent) : List Step :=
  ((attempts events).filter fun attempt => attempt.2.isNone && attempt.1.created?.isSome).map Prod.fst

@[simp] theorem grantedCreations_append (first second : List MigrationEvent) :
    grantedCreations (first ++ second) = grantedCreations first ++ grantedCreations second := by
  simp [grantedCreations]

theorem grantedCreations_eq_nil {events : List MigrationEvent}
    (apart : ∀ attempt ∈ attempts events, attempt.1.created? = none) : grantedCreations events = [] := by
  refine List.map_eq_nil_iff.2 (List.filter_eq_nil_iff.2 fun attempt made => ?_)
  simp [apart attempt made]

theorem Performed.grantedCreations_eq {α : Type} {step : α → Step} {items kept : List α}
    {events : List MigrationEvent} (performed : Performed step items events kept)
    (apart : ∀ item ∈ items, (step item).created? = none) : grantedCreations events = [] := by
  refine grantedCreations_eq_nil fun attempt made => ?_
  obtain ⟨item, inside, same⟩ := performed.attempts_from attempt made
  exact same ▸ apart item inside

/-- What a phase that drops and creates did create is what was granted. -/
theorem Rebuilt.grantedCreations_eq {snapshot : Snapshot} {tables created : List Table}
    {events : List MigrationEvent} (rebuilt : Rebuilt snapshot tables events created) :
    grantedCreations events = created.map createStep := by
  induction rebuilt with
  | nil => rfl
  | granted table dropped _ ih =>
    simp only [grantedCreations, attempts] at ih
    simp [grantedCreations, attempts, created?_dropStep, created?_createStep, ih]
  | refused table dropped cause _ ih =>
    simp only [grantedCreations, attempts] at ih
    simp [grantedCreations, attempts, created?_dropStep, ih]

theorem GroupTrace.grantedCreations_eq {snapshot : Snapshot} {group : TableGroup}
    {created : List Table} {events : List MigrationEvent}
    (trace : GroupTrace snapshot group events created) :
    grantedCreations events = created.map createStep := by
  cases trace with
  | phases unlinks detaches rebuilds links attaches =>
    have kept : grantedCreations ((keptTables snapshot group).map fun table =>
        .unchanged table.name) = [] := grantedCreations_eq_nil (by simp [attempts_keptTables])
    have made : grantedCreations (created.map fun table => .created table.name) = [] :=
      grantedCreations_eq_nil (by simp [attempts_created])
    have attached := attaches.grantedCreations_eq fun step inside => by
      obtain ⟨held, -, rfl⟩ := List.mem_map.1 inside
      exact created?_createKey held
    simp only [grantedCreations_append, kept, made, attached,
      unlinks.grantedCreations_eq fun step inside => created?_ownKeySteps inside,
      detaches.grantedCreations_eq fun held _ => created?_dropKey held,
      links.grantedCreations_eq fun step inside => created?_linkSteps inside,
      rebuilds.grantedCreations_eq, List.nil_append, List.append_nil]

/-- Under a name stands the last of the recorded tables with that name, or what stood there before. -/
theorem get?_record (snapshot : Snapshot) (tables : List Table) (name : String) :
    (record snapshot tables).get? name =
      (tables.reverse.find? fun table => table.name == name).or (snapshot.get? name) := by
  induction tables generalizing snapshot with
  | nil => rfl
  | cons table rest ih =>
    have later := ih (snapshot.insert table.name table)
    rw [Snapshot.get?_insert] at later
    rw [List.reverse_cons, List.find?_append, Option.or_assoc]
    refine later.trans (congrArg _ ?_)
    by_cases here : name = table.name
    · simp [here]
    · simp [here, Ne.symm here]

/-- **A run records the tables that it created**, in order, over the snapshot before it. -/
theorem RunTrace.records {snapshot final : Snapshot} {groups : List TableGroup}
    {events : List MigrationEvent} (trace : RunTrace snapshot groups events final) :
    ∃ created, created.Sublist groups.flatten ∧ final = record snapshot created ∧
      MigrationReport.created ⟨events⟩ = created.map Table.name ∧
      grantedCreations events = created.map createStep := by
  induction trace with
  | done => exact ⟨[], .slnil, rfl, rfl, rfl⟩
  | @group snapshot _ group _ _ _ here made _ ih =>
    obtain ⟨later, among, same, reported, granted⟩ := ih
    refine ⟨here ++ later, ?_, ?_, ?_, ?_⟩
    · rw [List.flatten_cons]
      exact (made.created_subset.trans List.filter_sublist).append among
    · rw [same, record, record, record, List.foldl_append]
    · rw [created_append, made.views.1, reported, List.map_append]
    · rw [grantedCreations_append, made.grantedCreations_eq, granted, List.map_append]

/-! ### Flaws -/

/-- The validation error of the first table that has one. -/
def FirstFlaw (tables : List Table) (cause : CompileError) : Prop :=
  ∃ before table after, tables = before ++ table :: after ∧
    (∀ earlier ∈ before, earlier.validate = .ok ()) ∧ table.validate = .error cause

theorem validateAll_eq_error_iff {tables : List Table} {cause : CompileError} :
    Table.validateAll tables = .error cause ↔ FirstFlaw tables cause := by
  induction tables with
  | nil =>
    constructor
    · rintro ⟨⟩
    · rintro ⟨before, table, after, split, -⟩
      exact absurd split (by simp)
  | cons table rest ih =>
    have step : Table.validateAll (table :: rest) =
        (table.validate >>= fun _ => Table.validateAll rest) := rfl
    rw [step]
    cases sound : table.validate with
    | error own =>
      constructor
      · rintro ⟨⟩
        exact ⟨[], table, rest, rfl, List.forall_mem_nil _, sound⟩
      · rintro ⟨before, flawed, after, split, valid, failed⟩
        cases before with
        | nil =>
          obtain ⟨rfl, -⟩ := List.cons.inj split
          exact sound.symm.trans failed
        | cons first before =>
          obtain ⟨rfl, -⟩ := List.cons.inj split
          cases sound.symm.trans (valid _ List.mem_cons_self)
    | ok _ =>
      refine ih.trans ⟨?_, ?_⟩
      · rintro ⟨before, flawed, after, split, valid, failed⟩
        exact ⟨table :: before, flawed, after, congrArg (table :: ·) split,
          List.forall_mem_cons.2 ⟨sound, valid⟩, failed⟩
      · rintro ⟨before, flawed, after, split, valid, failed⟩
        cases before with
        | nil =>
          obtain ⟨rfl, -⟩ := List.cons.inj split
          cases sound.symm.trans failed
        | cons first before =>
          obtain ⟨-, split⟩ := List.cons.inj split
          exact ⟨before, flawed, after, split, (List.forall_mem_cons.1 valid).2, failed⟩

theorem valid_of_validateAll {tables : List Table} (checked : Table.validateAll tables = .ok ()) :
    ∀ table ∈ tables, table.validate = .ok () := by
  induction tables with
  | nil => exact List.forall_mem_nil _
  | cons table rest ih =>
    have step : (table.validate >>= fun _ => Table.validateAll rest) = .ok () := checked
    cases sound : table.validate with
    | error cause =>
      rw [sound] at step
      cases step
    | ok _ =>
      rw [sound] at step
      exact List.forall_mem_cons.2 ⟨sound, ih step⟩

/-! ### The migration -/

/-- A migration tells what happened: its report and its store behind the calls that it made, where some
tables were created. -/
structure Tells (database : Database) (history calls : History) (groups : List TableGroup) (store : Store)
    (report : MigrationReport) (created : List Table) (final : Snapshot) (saved : Store) : Prop where
  statements : calls = report.statements.map fun sql => .execute ⟨sql, []⟩
  /-- The refused calls and the failures are the same, one by one. -/
  failures : database.refusals history calls =
    report.failures.map fun failure => (failure.step.call, failure.cause)
  concerns : ∀ failure ∈ report.failures, failure.step.Concerns store.load
  /-- The tables that were created are the declared ones whose creation was granted, in order. -/
  declared : created.Sublist groups.flatten
  granted : database.creations history calls = created.map fun table => .execute ⟨table.createSql, []⟩
  reported : report.created = created.map Table.name
  recorded : ∀ name, final.get? name =
    (created.reverse.find? fun table => table.name == name).or (store.load.get? name)
  frame : ∀ name, name ∉ report.created → final.get? name = store.load.get? name
  kept : ∀ name, store.load.contains name → final.contains name
  untouched : report.created = [] → saved = store
  written : report.created ≠ [] → store.save? final = some saved
  /-- What is loaded next is what was saved, if the store is in memory or the numbers in it read back. -/
  loaded : report.created = [] ∨ (∃ snapshot, store = .memory snapshot) ∨
    (∀ value ∈ final.tables.flatMap Table.floats, Json.ReadsBack value) → saved.load = final

/-- The refused calls of a run are its failures. -/
theorem refusals_eq {database : Database} {history calls : History} {events : List MigrationEvent}
    (outcomes : database.outcomes history calls =
      (attempts events).map fun attempt => (attempt.1.call, attempt.2)) :
    database.refusals history calls =
      (MigrationReport.failures ⟨events⟩).map fun failure => (failure.step.call, failure.cause) := by
  rw [Database.refusals, outcomes, failures_eq, List.filterMap_map, List.map_filterMap]
  refine List.filterMap_congr fun attempt _ => ?_
  rw [Option.map_map]
  rfl

/-- The granted creations of a run are those among its events. -/
theorem creations_eq {database : Database} {history calls : History} {events : List MigrationEvent}
    (outcomes : database.outcomes history calls =
      (attempts events).map fun attempt => (attempt.1.call, attempt.2)) :
    database.creations history calls = (grantedCreations events).map Step.call := by
  rw [Database.creations, outcomes, List.filter_map, List.map_map, grantedCreations, List.map_map]
  rfl

/-- What a run saved is loaded again, if the store is in memory or the numbers in it read back. -/
theorem load_saved {store saved : Store} {final : Snapshot} {groups : List TableGroup}
    {events : List MigrationEvent} (trace : RunTrace store.load groups events final)
    (untouched : MigrationReport.created ⟨events⟩ = [] → saved = store)
    (written : MigrationReport.created ⟨events⟩ ≠ [] → store.save? final = some saved)
    (readable : MigrationReport.created ⟨events⟩ = [] ∨ (∃ snapshot, store = .memory snapshot) ∨
      ∀ value ∈ final.tables.flatMap Table.floats, Json.ReadsBack value) : saved.load = final := by
  by_cases none : MigrationReport.created ⟨events⟩ = []
  · rw [untouched none, trace.final_eq none]
  · rcases readable with idle | ⟨snapshot, rfl⟩ | readsBack
    · exact absurd idle none
    · cases written none
      rfl
    · exact Store.load_of_save? readsBack (written none)

/-- A migration of sound tables to a store that can be written to tells what happened. -/
theorem tells_of_valid (database : Database) {groups : List TableGroup} {store : Store}
    (writable : store.Writable) (history : History)
    (valid : ∀ table ∈ groups.flatten, table.validate = .ok ()) :
    ∃ report saved calls created final,
      migrate (some database) groups store history = ((.ok report, saved), history ++ calls) ∧
      Tells database history calls groups store report created final saved := by
  obtain ⟨events, final, saved, after, ran, trace, logged, untouched, written⟩ :=
    migrate_store database writable history valid
  obtain ⟨calls, rfl, made, outcomes⟩ := logged.outcomes
  obtain ⟨created, declared, recorded, reported, granted⟩ := trace.records
  refine ⟨⟨events⟩, saved, calls, created, final, ran, ?_⟩
  exact {
    statements := by
      rw [made, statements_eq, List.map_map]
      rfl
    failures := refusals_eq outcomes
    concerns := by
      intro failure failed
      rw [failures_eq, List.mem_filterMap] at failed
      obtain ⟨attempt, tried, same⟩ := failed
      obtain ⟨cause, -, rfl⟩ := Option.map_eq_some_iff.1 same
      exact trace.concerns attempt tried
    declared := declared
    granted := by
      rw [creations_eq outcomes, granted, List.map_map]
      rfl
    reported := reported
    recorded := by
      rw [recorded]
      exact get?_record store.load created
    frame := by
      intro name other
      rw [recorded]
      exact get?_record_of_not_mem store.load (reported ▸ other)
    kept := by
      intro name held
      rw [recorded, contains_record]
      exact .inr held
    untouched := untouched
    written := written
    loaded := load_saved trace untouched written }

/-- Behind the validation a migration ends with a report, or because its store cannot be written to. -/
theorem outcome_of_checked (database : Database) {groups : List TableGroup} (store : Store)
    (history : History) (checked : Table.validateAll groups.flatten = .ok ()) :
    (∃ report, (migrate (some database) groups store history).1.1 = .ok report) ∨
      (migrate (some database) groups store history).1.1 = .error .io := by
  obtain ⟨events, final, after, ran, -, -⟩ :=
    runGroups_trace (some database) groups store.load history
  unfold migrate
  rw [checked]
  simp only [Session.bind_apply, ran, Option.isNone_some, Bool.false_or]
  by_cases none : (MigrationReport.created ⟨events⟩).isEmpty
  · rw [if_pos none]
    exact .inl ⟨_, rfl⟩
  · rw [if_neg none]
    cases store.save? final with
    | some saved => exact .inl ⟨_, rfl⟩
    | none => exact .inr rfl

/-- **A migration reports and saves what happened, and nothing else.** It fails with the first validation
error if a table has one, and then nothing is called or saved. Otherwise, if its store can be written to,
it tells which statements were made, refused and granted; behind it the snapshot differs only under the
names that it reports as created, and the store is left alone if there are none. -/
theorem migrate_tells (database : Database) (groups : List TableGroup) (store : Store)
    (history : History) :
    (∀ cause, (migrate (some database) groups store history).1.1 = .error (.compile cause) ↔
      FirstFlaw groups.flatten cause) ∧
    ((∃ table ∈ groups.flatten, table.validate ≠ .ok ()) → ∃ cause,
      migrate (some database) groups store history = ((.error (.compile cause), store), history)) ∧
    ((∀ table ∈ groups.flatten, table.validate = .ok ()) → store.Writable →
      ∃ report saved calls created final,
        migrate (some database) groups store history = ((.ok report, saved), history ++ calls) ∧
        Tells database history calls groups store report created final saved) := by
  have failing {cause : CompileError} (flawed : Table.validateAll groups.flatten = .error cause) :
      migrate (some database) groups store history = ((.error (.compile cause), store), history) := by
    unfold migrate
    rw [flawed]
    rfl
  refine ⟨fun cause => ?_, ?_, fun valid writable => tells_of_valid database writable history valid⟩
  · rw [← validateAll_eq_error_iff]
    refine ⟨fun failed => ?_, fun flawed => by rw [failing flawed]⟩
    cases checked : Table.validateAll groups.flatten with
    | error own =>
      rw [failing checked] at failed
      cases failed
      rfl
    | ok _ =>
      obtain ⟨report, reports⟩ | unwritable := outcome_of_checked database store history checked
      · cases reports.symm.trans failed
      · cases unwritable.symm.trans failed
  · rintro ⟨table, inside, flawed⟩
    cases checked : Table.validateAll groups.flatten with
    | error cause => exact ⟨cause, failing checked⟩
    | ok _ => exact absurd (valid_of_validateAll checked table inside) flawed

/-- A table that another one refers to is rebuilt. -/
theorem migrate_tells_music :
    (∀ table ∈ [[namedAuthors, songs]].flatten, table.validate = .ok ()) ∧
    (Store.memory musicSnapshot).Writable ∧
    ∃ report saved calls created final,
      migrate (some (music.database .none)) [[namedAuthors, songs]] (.memory musicSnapshot) [] =
        ((.ok report, saved), calls) ∧
      Tells (music.database .none) [] calls [[namedAuthors, songs]] (.memory musicSnapshot) report created
        final saved ∧
      report.created = ["authors"] ∧ saved.load = final := by
  have valid : ∀ table ∈ [[namedAuthors, songs]].flatten, table.validate = .ok () :=
    music_soundGroup.valid
  have writable : (Store.memory musicSnapshot).Writable := fun _ => rfl
  obtain ⟨-, -, tells⟩ := migrate_tells (music.database .none) [[namedAuthors, songs]]
    (.memory musicSnapshot) []
  obtain ⟨report, saved, calls, created, final, ran, told⟩ := tells valid writable
  refine ⟨valid, writable, report, saved, calls, created, final, ran, told, ?_,
    told.loaded (.inr (.inl ⟨_, rfl⟩))⟩
  have outcome : (migrate (some (music.database .none)) [[namedAuthors, songs]]
      (.memory musicSnapshot) []).1.1.toOption.map MigrationReport.created = some ["authors"] := by
    decide +kernel
  rw [ran] at outcome
  exact Option.some.inj outcome

/-- **What was saved to a file may be lost.** A default that is not a number is written as no number, and
the next run finds no snapshot: neither the table that was created nor the ones that were recorded. -/
theorem saved_file_forgets :
    let store : Store := .file (some (record .empty [authors]).toJson.pretty)
    let migrated := (migrate (some .granting) [[unratedSongs]] store []).1
    unratedSongs.validate = .ok () ∧
    migrated.1.toOption.map MigrationReport.created = some ["songs"] ∧
    migrated.1.toOption.map MigrationReport.failures = some [] ∧
    store.load.contains "authors" ∧ ¬ migrated.2.load.contains "authors" ∧
    ¬ migrated.2.load.contains "songs" := by
  decide +kernel

end Migration

end SqlCraft
