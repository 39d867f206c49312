/-
**A run without a database foretells a run that nothing refuses.**

Without a database a migration makes no call and leaves its store alone. Both runs take the same steps,
and both go from one group to the next with the same snapshot, because a step that is not executed
counts as granted. So the two are compared step by step, each behind any history:

* `Session.Foretells` — a program makes no call and gives the value that another one gives; programs
  that are put together in the same way keep this;
* `perform_foretells` — a single step, the only place where the two runs differ;
* `runGroups_foretells` — the run over groups;
* `migrate_foretells` — the whole migration, with the calls of the one that is executed.
-/

import SqlCraft.Proofs.Migration.Agreement

namespace SqlCraft

/-! ### One program foretells another -/

/-- The first program makes no call, and gives behind any history what the second gives behind any. -/
def Session.Foretells {α : Type} (dry real : Session α) : Prop :=
  ∀ earlier history, dry earlier = ((real history).1, earlier)

namespace Session.Foretells

theorem pure {α : Type} (value : α) : Foretells (Pure.pure value) (Pure.pure value) :=
  fun _ _ => rfl

/-- One program behind another: the second goes on with the value that was foretold. -/
theorem bind {α β : Type} {dry real : Session α} {next other : α → Session β}
    (first : dry.Foretells real) (later : ∀ value, (next value).Foretells (other value)) :
    (dry >>= next).Foretells (real >>= other) := by
  intro earlier history
  rw [Session.bind_apply, Session.bind_apply, first earlier history]
  exact later _ _ _

end Session.Foretells

/-- Every snapshot can be saved to the store. -/
def Store.Writable (store : Store) : Prop := ∀ snapshot, (store.save? snapshot).isSome

theorem Store.writable_iff {store : Store} : store.Writable ↔ store ≠ .unwritable := by
  constructor
  · rintro writable rfl
    exact Bool.noConfusion (writable .empty)
  · intro other snapshot
    cases store with
    | memory | file => rfl
    | unwritable => exact absurd rfl other

namespace Migration

open Session (Foretells)

/-! ### The run over groups -/

section

variable {database : Database}

/-- A step that is not executed counts as granted. -/
theorem perform_foretells (refusesNothing : database.RefusesNothing) (step : Step) :
    Foretells (perform none step) (perform (some database) step) := by
  intro earlier history
  obtain ⟨rows, granted⟩ := refusesNothing history step.call
  have unrefused : database.refusal? history step = none := by
    rw [Database.refusal?, granted]
  rw [perform_eq, perform_eq, attempt, attempt, unrefused]

theorem performEach_foretells (refusesNothing : database.RefusesNothing) {α : Type}
    (step : α → Step) (items : List α) :
    Foretells (performEach none step items) (performEach (some database) step items) := by
  induction items with
  | nil => exact .pure _
  | cons item rest ih =>
    exact (perform_foretells refusesNothing (step item)).bind fun _ => ih.bind fun _ => .pure _

theorem performAll_foretells (refusesNothing : database.RefusesNothing) (steps : List Step) :
    Foretells (performAll none steps) (performAll (some database) steps) := by
  intro earlier history
  rw [performAll_apply, performAll_apply, performEach_foretells refusesNothing id steps _ history]

theorem rebuild_foretells (refusesNothing : database.RefusesNothing) (snapshot : Snapshot)
    (tables : List Table) :
    Foretells (rebuild none snapshot tables) (rebuild (some database) snapshot tables) := by
  induction tables with
  | nil => exact .pure _
  | cons table rest ih =>
    exact (perform_foretells refusesNothing _).bind fun _ =>
      (perform_foretells refusesNothing _).bind fun _ => ih.bind fun _ => .pure _

theorem rebuildGroup_foretells (refusesNothing : database.RefusesNothing) (snapshot : Snapshot)
    (changed : List Table) :
    Foretells (rebuildGroup none snapshot changed) (rebuildGroup (some database) snapshot changed) :=
  (performAll_foretells refusesNothing _).bind fun _ =>
    (performEach_foretells refusesNothing _ _).bind fun _ =>
      (rebuild_foretells refusesNothing _ _).bind fun _ =>
        (performAll_foretells refusesNothing _).bind fun _ =>
          (performAll_foretells refusesNothing _).bind fun _ => .pure _

theorem runGroup_foretells (refusesNothing : database.RefusesNothing) (group : TableGroup)
    (snapshot : Snapshot) :
    Foretells (runGroup none group snapshot) (runGroup (some database) group snapshot) := by
  unfold runGroup
  by_cases none : (group.filter snapshot.isChanged).isEmpty
  · rw [if_pos none, if_pos none]
    exact .pure _
  · rw [if_neg none, if_neg none]
    exact (rebuildGroup_foretells refusesNothing _ _).bind fun _ => .pure _

/-- **The run over groups is foretold**: its events, and the snapshot behind each group. -/
theorem runGroups_foretells (refusesNothing : database.RefusesNothing) (groups : List TableGroup)
    (snapshot : Snapshot) :
    Foretells (runGroups none groups snapshot) (runGroups (some database) groups snapshot) := by
  induction groups generalizing snapshot with
  | nil => exact .pure _
  | cons group rest ih =>
    exact (runGroup_foretells refusesNothing group snapshot).bind fun _ =>
      (ih _).bind fun _ => .pure _

end

/-! ### The migration -/

/-- The calls that an outcome reports: its statements, in order. -/
def reportedCalls : Except RunError MigrationReport → List Call
  | .ok report => report.statements.map fun sql => .execute ⟨sql, []⟩
  | .error _ => []

/-- **A migration without a database foretells one that nothing refuses.** It makes no call and leaves
the store as it is. The other one makes the calls that were reported and has the same outcome, unless it
cannot save its snapshot. -/
theorem migrate_foretells (database : Database) (groups : List TableGroup) (store : Store)
    (history : History) (refusesNothing : database.RefusesNothing) :
    ∃ outcome,
      (∀ earlier, migrate none groups store earlier = ((outcome, store), earlier)) ∧
      (migrate (some database) groups store history).2 = history ++ reportedCalls outcome ∧
      ((migrate (some database) groups store history).1.1 = outcome ∨
        ¬ store.Writable ∧ (migrate (some database) groups store history).1.1 = .error .io) := by
  unfold migrate
  cases Table.validateAll groups.flatten with
  | error cause => exact ⟨_, fun _ => rfl, (List.append_nil _).symm, .inl rfl⟩
  | ok _ =>
    obtain ⟨events, final, after, ran, -, logged⟩ :=
      runGroups_trace (some database) groups store.load history
    have dry (earlier : History) :
        runGroups none groups store.load earlier = ((events, final), earlier) := by
      rw [runGroups_foretells refusesNothing groups store.load earlier history, ran]
    refine ⟨.ok ⟨events⟩, fun earlier => ?_, ?_⟩
    · simp only [Session.bind_apply, dry, Option.isNone_none, Bool.true_or, if_true,
        Session.pure_apply]
    · simp only [Session.bind_apply, ran, Option.isNone_some, Bool.false_or]
      by_cases none : (MigrationReport.created ⟨events⟩).isEmpty
      · rw [if_pos none]
        exact ⟨logged.statements, .inl rfl⟩
      · rw [if_neg none]
        cases saved : store.save? final with
        | some stored => exact ⟨logged.statements, .inl rfl⟩
        | none =>
          refine ⟨logged.statements, .inr ⟨fun writable => ?_, rfl⟩⟩
          have stores := writable final
          rw [saved] at stores
          cases stores

/-- A table that another one refers to is rebuilt, and a new table comes in a group of its own. -/
theorem migrate_foretells_music :
    let albums : Table := ⟨"albums", [{ name := "title", type := .varchar, size := some 80 }]⟩
    let groups : List TableGroup := [[namedAuthors, songs], [albums]]
    let store : Store := .memory musicSnapshot
    Database.granting.RefusesNothing ∧ store.Writable ∧
    ∃ report, (∀ earlier, migrate none groups store earlier = ((.ok report, store), earlier)) ∧
      report.created = ["authors", "albums"] ∧ report.unchanged = ["songs"] ∧
      report.failures = [] ∧ report.statements = [
        "ALTER TABLE \x60songs\x60 DROP CONSTRAINT \x60by\x60",
        "DROP TABLE \x60authors\x60",
        "CREATE TABLE \x60authors\x60 (\n  \x60id\x60 INT,\n  \x60name\x60 TEXT,\n  " ++
          "PRIMARY KEY (\x60id\x60)\n)",
        "ALTER TABLE \x60songs\x60 ADD CONSTRAINT \x60by\x60 FOREIGN KEY (\x60author\x60) " ++
          "REFERENCES \x60authors\x60 (\x60id\x60)",
        "DROP TABLE IF EXISTS \x60albums\x60",
        "CREATE TABLE \x60albums\x60 (\n  \x60title\x60 VARCHAR(80)\n)"] ∧
      (migrate (some .granting) groups store []).1.1 = .ok report ∧
      (migrate (some .granting) groups store []).2 = reportedCalls (.ok report) := by
  intro albums groups store
  have writable : store.Writable := Store.writable_iff.2 nofun
  obtain ⟨outcome, dry, calls, same | ⟨unwritable, -⟩⟩ :=
    migrate_foretells .granting groups store [] Database.granting_refusesNothing
  · obtain ⟨report, foretold⟩ : ∃ report, (migrate none groups store []).1.1 = .ok report :=
      ⟨_, rfl⟩
    rw [dry] at foretold
    obtain rfl : outcome = .ok report := foretold
    have events : (migrate none groups store []).1.1 = .ok report := by rw [dry]
    refine ⟨Database.granting_refusesNothing, writable, report, dry, ?_, ?_, ?_, ?_, same, calls⟩
    all_goals
      rw [← Except.ok.inj events]
      decide +kernel
  · exact absurd writable unwritable

end Migration

end SqlCraft
