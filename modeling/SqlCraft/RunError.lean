/-
**Why a run against a database or a store fails.**
-/

import SqlCraft.CompileError

namespace SqlCraft

/-- Why a run fails. -/
inductive RunError where
  /-- What was asked for cannot be turned into SQL. -/
  | compile (cause : CompileError)
  /-- The database refused a call. -/
  | execution (reason : String)
  /-- The store could not be written. -/
  | io
deriving DecidableEq, Repr

/-- The wording of an error. -/
def RunError.message : RunError → String
  | .compile cause => "Compile error: " ++ cause.message
  | .execution reason => "Execution error: " ++ reason
  | .io => "IO error: the snapshot cannot be written"

end SqlCraft
