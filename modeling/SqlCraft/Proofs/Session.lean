/-
**Sessions as functions of the history.**

A session takes the history of calls and leaves it longer. What it does is read off its parts:

* `Session.bind_apply`, `Session.pure_apply` — one program behind another;
* `Database.refused`, `Database.firstRefusal?` — the calls of a history that were refused, and the
  reason of the first refusal;
* `Database.RefusesNothing` — a database that grants whatever it is asked for.
-/

import SqlCraft.Database

namespace SqlCraft

namespace Session

/-- The second program goes on with the history that the first leaves. -/
theorem bind_apply {α β : Type} (program : Session α) (next : α → Session β) (history : History) :
    (program >>= next) history = next (program history).1 (program history).2 := rfl

theorem pure_apply {α : Type} (value : α) (history : History) :
    (pure value : Session α) history = (value, history) := rfl

theorem map_apply {α β : Type} (change : α → β) (program : Session α) (history : History) :
    (change <$> program) history = (change (program history).1, (program history).2) := rfl

end Session

/-- Which of the calls made behind a history were refused. -/
def Database.refused (database : Database) : History → List Call → List Call
  | _, [] => []
  | history, call :: rest =>
    match database.answer history call with
    | .ok _ => database.refused (history ++ [call]) rest
    | .error _ => call :: database.refused (history ++ [call]) rest

/-- The reason of the first refusal among calls made behind a history. -/
def Database.firstRefusal? (database : Database) : History → List Call → Option String
  | _, [] => none
  | history, call :: rest =>
    match database.answer history call with
    | .ok _ => database.firstRefusal? (history ++ [call]) rest
    | .error reason => some reason

/-- Behind calls that were all granted, the first refusal is that of the calls that follow. -/
theorem Database.firstRefusal?_append {database : Database} {history : History} {calls : List Call}
    (granted : database.refused history calls = []) (later : List Call) :
    database.firstRefusal? history (calls ++ later) =
      database.firstRefusal? (history ++ calls) later := by
  induction calls generalizing history with
  | nil => rw [List.nil_append, List.append_nil]
  | cons call rest ih =>
    rw [List.cons_append, firstRefusal?]
    rw [refused] at granted
    cases answer : database.answer history call with
    | ok rows =>
      rw [answer] at granted
      rw [List.append_cons history call rest]
      exact ih granted
    | error reason =>
      rw [answer] at granted
      cases granted

/-- Whatever the database is asked for, it grants. -/
def Database.RefusesNothing (database : Database) : Prop :=
  ∀ history call, ∃ rows, database.answer history call = .ok rows

theorem Database.RefusesNothing.refused_eq {database : Database}
    (refusesNothing : database.RefusesNothing) (history : History) (calls : List Call) :
    database.refused history calls = [] := by
  induction calls generalizing history with
  | nil => rfl
  | cons call rest ih =>
    obtain ⟨rows, granted⟩ := refusesNothing history call
    rw [Database.refused, granted]
    exact ih _

theorem Database.granting_refusesNothing : granting.RefusesNothing := fun _ _ => ⟨[], rfl⟩

end SqlCraft
