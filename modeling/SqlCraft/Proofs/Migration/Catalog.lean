/-
**Catalogs: tables and foreign keys as a database keeps them.**

A catalog is a set of tables and a set of constraints. It grants a command or refuses it by the rules
of MySQL, and a granted command changes it. A database with a catalog reads the statements it is
given, and may refuse any of them for reasons of its own:

* `Catalog.Allows`, `Catalog.apply` — the rules, and what a granted command does;
* `Catalog.database` — the database that a catalog makes up, with additional refusals;
* `Follows` — the events of a run as they change a catalog;
* `Logged.follows` — every run against such a database is followed by its catalog.
-/

import Mathlib.Data.Finset.Basic
import Mathlib.Data.Finset.Filter
import SqlCraft.Proofs.Migration.Command
import SqlCraft.Proofs.Migration.Trace

namespace SqlCraft

/-- What tells the constraints of a database apart: the table that holds one, and its name. -/
def Constraint.key (constraint : Constraint) : String × String := (constraint.holder, constraint.name)

/-- The tables and the foreign keys of a database. -/
structure Catalog where
  tables : Finset String
  constraints : Finset Constraint
deriving DecidableEq

namespace Catalog

/-- Whether a command is granted. -/
def Allows (catalog : Catalog) : Command → Prop
  | .createTable name => name ∉ catalog.tables
  | .dropTable name ifExists => (name ∈ catalog.tables ∨ ifExists = true) ∧
      ∀ constraint ∈ catalog.constraints, constraint.target = name → constraint.holder = name
  | .dropConstraint holder name =>
      ∃ constraint ∈ catalog.constraints, constraint.key = (holder, name)
  | .addConstraint constraint => constraint.holder ∈ catalog.tables ∧
      constraint.target ∈ catalog.tables ∧
      ∀ other ∈ catalog.constraints, other.key ≠ constraint.key

instance (catalog : Catalog) (command : Command) : Decidable (catalog.Allows command) :=
  match command with
  | .createTable _ => inferInstanceAs (Decidable (_ ∉ _))
  | .dropTable _ _ => inferInstanceAs (Decidable (_ ∧ _))
  | .dropConstraint _ _ => inferInstanceAs (Decidable (∃ _ ∈ _, _))
  | .addConstraint _ => inferInstanceAs (Decidable (_ ∧ _))

/-- The catalog behind a granted command. -/
def apply (catalog : Catalog) : Command → Catalog
  | .createTable name => ⟨insert name catalog.tables, catalog.constraints⟩
  | .dropTable name _ =>
      ⟨catalog.tables.erase name, catalog.constraints.filter fun held => held.holder ≠ name⟩
  | .dropConstraint holder name =>
      ⟨catalog.tables, catalog.constraints.filter fun held => held.key ≠ (holder, name)⟩
  | .addConstraint constraint => ⟨catalog.tables, insert constraint catalog.constraints⟩

/-- Every constraint is held by a table and refers to a table. -/
def Closed (catalog : Catalog) : Prop :=
  ∀ constraint ∈ catalog.constraints,
    constraint.holder ∈ catalog.tables ∧ constraint.target ∈ catalog.tables

/-- No granted command leaves a constraint without its tables. -/
theorem Closed.apply {catalog : Catalog} {command : Command} (closed : catalog.Closed)
    (allowed : catalog.Allows command) : (catalog.apply command).Closed := by
  intro constraint inside
  cases command with
  | createTable name =>
    obtain ⟨holder, target⟩ := closed constraint inside
    exact ⟨Finset.mem_insert_of_mem holder, Finset.mem_insert_of_mem target⟩
  | dropTable name ifExists =>
    obtain ⟨held, other⟩ := Finset.mem_filter.1 inside
    obtain ⟨holder, target⟩ := closed constraint held
    have apart : constraint.target ≠ name := fun same => other (allowed.2 constraint held same)
    exact ⟨Finset.mem_erase.2 ⟨other, holder⟩, Finset.mem_erase.2 ⟨apart, target⟩⟩
  | dropConstraint holder name => exact closed constraint (Finset.mem_filter.1 inside).1
  | addConstraint added =>
    rcases Finset.mem_insert.1 inside with rfl | held
    · exact ⟨allowed.1, allowed.2.1⟩
    · exact closed constraint held

/-! ### Databases with a catalog -/

/-- Refusals for reasons that are not the catalog's: why a call behind a history is refused. -/
abbrev Refusals := History → Call → Option String

/-- No refusals but the catalog's own. -/
def Refusals.none : Refusals := fun _ _ => Option.none

/-- The command of a call. -/
def command? : Call → Option Command
  | .execute statement => Command.read? statement.sql
  | _ => none

/-- Why a call behind a history is refused, if it is. -/
def refusal? (refusals : Refusals) (history : History) (catalog : Catalog) (call : Call) :
    Option String :=
  match refusals history call, command? call with
  | some reason, _ => some reason
  | none, none => some "unknown statement"
  | none, some command => if catalog.Allows command then none else some "refused by the catalog"

/-- The catalog behind a call. -/
def step (refusals : Refusals) (history : History) (catalog : Catalog) (call : Call) : Catalog :=
  match catalog.refusal? refusals history call, command? call with
  | none, some command => catalog.apply command
  | _, _ => catalog

/-- The catalog behind calls that are made behind a history. -/
def replay (refusals : Refusals) : History → Catalog → List Call → Catalog
  | _, catalog, [] => catalog
  | history, catalog, call :: rest =>
    replay refusals (history ++ [call]) (catalog.step refusals history call) rest

/-- The catalog behind a history. -/
def after (catalog : Catalog) (refusals : Refusals) (history : History) : Catalog :=
  replay refusals [] catalog history

/-- The database that starts with a catalog. -/
def database (catalog : Catalog) (refusals : Refusals) : Database where
  answer history call :=
    match (catalog.after refusals history).refusal? refusals history call with
    | some reason => .error reason
    | none => .ok []

theorem replay_append (refusals : Refusals) (history : History) (catalog : Catalog)
    (first second : List Call) : replay refusals history catalog (first ++ second) =
      replay refusals (history ++ first) (replay refusals history catalog first) second := by
  induction first generalizing history catalog with
  | nil => rw [List.append_nil]; rfl
  | cons call rest ih =>
    rw [List.cons_append, replay, ih, replay, List.append_assoc]
    rfl

theorem after_append (catalog : Catalog) (refusals : Refusals) (history : History) (call : Call) :
    catalog.after refusals (history ++ [call]) =
      (catalog.after refusals history).step refusals history call := by
  rw [after, replay_append]
  rfl

end Catalog

namespace Migration

/-- The events of a run as they change a catalog. If the run is plain, commands are only refused by
the rules of the catalog. -/
inductive Follows (plain : Prop) : Catalog → List MigrationEvent → Catalog → Prop where
  | done (catalog : Catalog) : Follows plain catalog [] catalog
  | unchanged {catalog final : Catalog} {events : List MigrationEvent} (table : String)
      (rest : Follows plain catalog events final) :
      Follows plain catalog (.unchanged table :: events) final
  | rebuilding {catalog final : Catalog} {events : List MigrationEvent} (table : String)
      (rest : Follows plain catalog events final) :
      Follows plain catalog (.rebuilding table :: events) final
  | created {catalog final : Catalog} {events : List MigrationEvent} (table : String)
      (rest : Follows plain catalog events final) :
      Follows plain catalog (.created table :: events) final
  | granted {catalog final : Catalog} {events : List MigrationEvent} {step : Step}
      {command : Command} (read : Command.read? step.sql = some command)
      (allowed : catalog.Allows command) (rest : Follows plain (catalog.apply command) events final) :
      Follows plain catalog (.attempted step none :: events) final
  | refused {catalog final : Catalog} {events : List MigrationEvent} {step : Step} {cause : String}
      (denied : plain → ∀ command, Command.read? step.sql = some command → ¬ catalog.Allows command)
      (rest : Follows plain catalog events final) :
      Follows plain catalog (.attempted step (some cause) :: events) final

/-- **A run against a database with a catalog is followed by the catalog.** -/
theorem Logged.follows {initial : Catalog} {refusals : Catalog.Refusals} {before after : History}
    {events : List MigrationEvent}
    (logged : Logged (some (initial.database refusals)) before events after) :
    Follows (∀ history call, refusals history call = none) (initial.after refusals before) events
      (initial.after refusals after) := by
  induction logged with
  | done => exact .done _
  | unchanged table _ ih => exact .unchanged table ih
  | rebuilding table _ ih => exact .rebuilding table ih
  | created table _ ih => exact .created table ih
  | @attempted history after events step _ ih =>
    have ih : Follows _ ((initial.after refusals history).step refusals history step.call) events
        (initial.after refusals after) := initial.after_append refusals history step.call ▸ ih
    have answered : (attempt (some (initial.database refusals)) history step).1 =
        ((initial.after refusals history).refusal? refusals history step.call).map fun reason =>
          (RunError.execution reason).message := by
      simp only [attempt, Database.refusal?, Catalog.database]
      cases (initial.after refusals history).refusal? refusals history step.call <;> rfl
    have asked : Catalog.command? step.call = Command.read? step.sql := rfl
    rw [answered]
    cases refused : (initial.after refusals history).refusal? refusals history step.call with
    | none =>
      rw [Catalog.step, refused, asked] at ih
      rw [Catalog.refusal?, asked] at refused
      cases read : Command.read? step.sql with
      | none =>
        rw [read] at refused
        cases own : refusals history step.call <;> rw [own] at refused <;> cases refused
      | some command =>
        rw [read] at refused ih
        refine .granted read ?_ ih
        cases own : refusals history step.call with
        | some reason =>
          rw [own] at refused
          cases refused
        | none =>
          by_contra denied
          simp [own, denied] at refused
    | some reason =>
      rw [Catalog.step, refused] at ih
      refine .refused (fun plain command read allowed => ?_) ih
      rw [Catalog.refusal?, asked, read, plain history step.call] at refused
      simp [allowed] at refused

end Migration

end SqlCraft
