/-
**Snapshots: the table last applied under each name.**

A snapshot is sorted by name. Its document is an object with a member per name; of two members with
one name the last counts, and a text that is no such document counts as the empty snapshot.

* `get?_insert` — what a snapshot holds after an insertion.
-/

import SqlCraft.SortedEntries
import SqlCraft.Table.Document

namespace SqlCraft

/-- The last applied table of each name, sorted by name. -/
structure Snapshot where
  entries : List (String × Table)
  ascending : SortedEntries.Ascending entries

namespace Snapshot

/-- The snapshot of an empty database. -/
def empty : Snapshot := ⟨[], List.Pairwise.nil⟩

instance : Inhabited Snapshot := ⟨empty⟩

instance : BEq Snapshot := ⟨fun left right => left.entries == right.entries⟩

/-- The table recorded under a name. -/
def get? (snapshot : Snapshot) (name : String) : Option Table := snapshot.entries.lookup name

/-- Whether a table is recorded under a name. -/
def contains (snapshot : Snapshot) (name : String) : Bool := (snapshot.get? name).isSome

/-- The recorded tables, in the order of their names. -/
def tables (snapshot : Snapshot) : List Table := snapshot.entries.map Prod.snd

/-- The snapshot with one table recorded. -/
def insert (snapshot : Snapshot) (name : String) (table : Table) : Snapshot :=
  ⟨SortedEntries.insert name table snapshot.entries,
    SortedEntries.ascending_insert snapshot.ascending⟩

/-- The snapshot that results from recording tables one after another. -/
def ofList (entries : List (String × Table)) : Snapshot :=
  ⟨SortedEntries.ofList entries, SortedEntries.ascending_ofList entries⟩

theorem get?_insert (snapshot : Snapshot) (name other : String) (table : Table) :
    (snapshot.insert name table).get? other =
      if other = name then some table else snapshot.get? other :=
  SortedEntries.lookup_insert name other table snapshot.entries

/-! ### Documents -/

/-- Reads a snapshot. -/
def reader : Json.Reader Snapshot := fun source =>
  (Json.Reader.map Table.reader source).map ofList

/-- Writes a snapshot. -/
def toJson (snapshot : Snapshot) : Json :=
  .object (snapshot.entries.map fun (name, table) => (name, table.toJson))

/-- The snapshot in a text; none that can be read is the empty one. -/
def ofText (text : String) : Snapshot :=
  match Json.readText reader text with
  | .ok snapshot => snapshot
  | .error _ => empty

end Snapshot

end SqlCraft
