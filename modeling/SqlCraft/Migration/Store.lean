/-
**Stores: where the snapshot is kept between runs.**

A store in memory holds the snapshot itself, a file its pretty JSON text. A file that is missing, is
no text or holds no snapshot counts as the empty snapshot. A place that no file can be written to is
empty as well, and refuses to be saved to.
-/

import SqlCraft.Migration.Snapshot

namespace SqlCraft

/-- Where a snapshot is kept. -/
inductive Store where
  | memory (snapshot : Snapshot)
  /-- A file with its text, if it is there and is text. -/
  | file (text : Option String)
  /-- A place that cannot be written to. -/
  | unwritable

namespace Store

/-- The stored snapshot. -/
def load : Store → Snapshot
  | .memory snapshot => snapshot
  | .file (some text) => Snapshot.ofText text
  | .file none => .empty
  | .unwritable => .empty

/-- The store with another snapshot in it, unless it cannot be written to. -/
def save? (store : Store) (snapshot : Snapshot) : Option Store :=
  match store with
  | .memory _ => some (.memory snapshot)
  | .file _ => some (.file (some snapshot.toJson.pretty))
  | .unwritable => none

end Store

end SqlCraft
