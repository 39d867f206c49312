/-
**Databases as they are seen from outside.**

A database answers calls with rows or refuses them with a reason. Its answer may depend on all calls
made before, and on nothing else; so a database is a function of the history of calls, and a program
that talks to it is a `Session`, which carries that history and leaves it longer.

Transactions are numbered in the order in which they were asked for, whether they were granted or
not.
-/

import SqlCraft.Row
import SqlCraft.Sql.Statement

namespace SqlCraft

open Sql (BoundText)

/-- A call on a database. -/
inductive Call where
  /-- Runs a statement outside of any transaction. -/
  | execute (statement : BoundText)
  /-- Opens a transaction. -/
  | begin
  /-- Runs a statement inside a transaction. -/
  | executeIn (transaction : Nat) (statement : BoundText)
  /-- Closes a transaction and keeps what was written in it. -/
  | commit (transaction : Nat)
  /-- Closes a transaction and drops what was written in it. -/
  | rollback (transaction : Nat)
deriving DecidableEq

/-- Calls in the order in which they were made. -/
abbrev History := List Call

/-- The number of transactions that were asked for. -/
def History.transactions (history : History) : Nat := history.count .begin

/-- A database: its answer to a call behind a history, rows or the reason of a refusal. -/
structure Database where
  answer : History → Call → Except String (List Row)

/-- A program that makes calls. -/
abbrev Session (α : Type) := StateM History α

namespace Database

/-- Makes a call. -/
def call (database : Database) (call : Call) : Session (Except String (List Row)) :=
  fun history => (database.answer history call, history ++ [call])

/-- Opens a transaction; its number is the count of those asked for so far. -/
def begin (database : Database) : Session (Except String Nat) := fun history =>
  let (answer, history) := database.call .begin history
  (answer.map fun _ => history.transactions, history)

/-- The database that grants every call and has no rows. -/
def granting : Database := ⟨fun _ _ => .ok []⟩

/-- The database that refuses every call for one reason. -/
def refusing (reason : String) : Database := ⟨fun _ _ => .error reason⟩

end Database

end SqlCraft
