/-
**Running queries and plans.**

* `Client.query` — runs one statement outside of any transaction;
* `Client.run` — runs a plan in a transaction of its own: it is committed if every statement was
  granted, and otherwise rolled back behind the first that was refused, whose reason is the error
  even if the rollback is refused as well. A plan without statements makes no call;
* `Client.find`, `Client.mutate` — the same from descriptions; one that cannot be compiled makes no
  call.
-/

import SqlCraft.Database
import SqlCraft.Mutation.Plan
import SqlCraft.RunError

namespace SqlCraft.Client

open Sql (BoundText Statement)

/-- The outcome of a run. -/
abbrev Outcome (α : Type) := Except RunError α

/-- The outcome of a call. -/
def outcome {α : Type} (answer : Except String α) : Outcome α := answer.mapError .execution

/-- Runs a statement outside of any transaction. -/
def query (database : Database) (statement : BoundText) : Session (Outcome (List Row)) := do
  return outcome (← database.call (.execute statement))

/-- Compiles and runs a query. -/
def find (database : Database) (wanted : Query) : Session (Outcome (List Row)) :=
  match Query.build wanted with
  | .ok statement => query database statement
  | .error cause => return .error (.compile cause)

/-! ### Transactions -/

/-- Opens a transaction for a caller that puts its own statements into it. -/
def transaction (database : Database) : Session (Outcome Nat) := do
  return outcome (← database.begin)

/-- Runs a statement inside a transaction. -/
def queryIn (database : Database) (transaction : Nat) (statement : BoundText) :
    Session (Outcome (List Row)) := do
  return outcome (← database.call (.executeIn transaction statement))

/-- Runs statements inside a transaction, up to the first that is refused, and counts them. -/
def runStatements (database : Database) (transaction : Nat) (count : Nat) :
    List Statement → Session (Outcome Nat)
  | [] => return .ok count
  | statement :: rest => do
    match ← queryIn database transaction statement.expand with
    | .ok _ => runStatements database transaction (count + 1) rest
    | .error reason => return .error reason

/-- Runs a plan inside a transaction, up to the first statement that is refused. -/
def runIn (database : Database) (transaction : Nat) (plan : Plan) : Session (Outcome Nat) :=
  runStatements database transaction 0 plan.statements

/-- Commits a transaction. -/
def commit (database : Database) (transaction : Nat) : Session (Outcome Unit) := do
  return (outcome (← database.call (.commit transaction))).map fun _ => ()

/-- Rolls a transaction back. -/
def rollback (database : Database) (transaction : Nat) : Session (Outcome Unit) := do
  return (outcome (← database.call (.rollback transaction))).map fun _ => ()

/-! ### Plans -/

/-- Runs a plan in a transaction of its own and counts its statements. -/
def run (database : Database) (plan : Plan) : Session (Outcome Nat) := do
  if plan.isEmpty then return .ok 0
  match ← transaction database with
  | .error reason => return .error reason
  | .ok number =>
    match ← runIn database number plan with
    | .ok count => return (← commit database number).map fun _ => count
    | .error reason =>
      let _ ← rollback database number
      return .error reason

/-- Compiles and runs a mutation. -/
def mutate (database : Database) (mutation : Mutation) (batched : Bool) : Session (Outcome Nat) :=
  match Mutation.compile mutation batched with
  | .ok plan => run database plan
  | .error cause => return .error (.compile cause)

end SqlCraft.Client
