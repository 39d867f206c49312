/-
**Keys of a table: single columns and groups of columns.**

A column with a composite marker is linked to every column that the marker names. The columns that
such links connect form a group; the members of its key are those of its columns that carry a
composite marker themselves, sorted by the order the markers give and then by declaration.

* `Table.compositeGroups` — the groups, in the order of their first members' declaration;
* `Table.keys` — all keys of one kind: single columns first, then the groups.
-/

import SqlCraft.Table.Basic
import SqlCraft.Table.Forest

namespace SqlCraft

/-- The two kinds of keys that markers declare. -/
inductive KeyKind where
  | index
  | unique
deriving DecidableEq, Repr

namespace KeyKind

/-- The marker of this kind that a column carries. -/
def marker? (kind : KeyKind) (column : Column) : Option KeyMarker :=
  match kind with
  | .index => column.index
  | .unique => column.unique

/-- The SQL keyword of the kind. -/
def keyword : KeyKind → String
  | .index => "INDEX"
  | .unique => "UNIQUE"

/-- The first part of the names of its keys. -/
def label : KeyKind → String
  | .index => "idx"
  | .unique => "uq"

end KeyKind

namespace Table

/-- The position of a column. -/
abbrev Position (table : Table) : Type := Fin table.columns.length

/-- The columns with a composite marker of the kind: where they stand, the columns named, and the
order given. -/
def composites (table : Table) (kind : KeyKind) :
    List (table.Position × List String × Int32) :=
  (List.finRange table.columns.length).filterMap fun position =>
    match kind.marker? table.columns[position] with
    | some (.composite partners order) => some (position, partners, order)
    | _ => none

/-- The links of composite markers: from the column that carries one to each declared column that it
names. -/
def links (table : Table) (kind : KeyKind) : List (table.Position × table.Position) :=
  (table.composites kind).flatMap fun (position, partners, _) =>
    partners.filterMap fun partner =>
      (table.columns.findFinIdx? fun column => column.name == partner).map fun other =>
        (position, other)

/-- The member of a group: its order and its position. -/
abbrev Member (table : Table) : Type := Int32 × table.Position

/-- The order of members: by the order given, then by position. -/
def Member.le (table : Table) (left right : table.Member) : Bool :=
  left.1 < right.1 || (left.1 == right.1 && left.2 ≤ right.2)

/-- Groups with their roots, in the order of their first members, with one more member. -/
def enter {table : Table} (root : table.Position) (member : table.Member) :
    List (table.Position × List table.Member) → List (table.Position × List table.Member)
  | [] => [(root, [member])]
  | (other, members) :: rest =>
    if other = root then (other, members ++ [member]) :: rest
    else (other, members) :: enter root member rest

/-- The groups of positions that composite markers of the kind make up. -/
def compositeGroups (table : Table) (kind : KeyKind) : List (List table.Position) :=
  let forest := (Forest.discrete table.columns.length).unionAll (table.links kind)
  let groups := (table.composites kind).foldl
    (fun groups (position, _, order) => enter (forest.root position) (order, position) groups) []
  groups.map fun (_, members) => (members.mergeSort (Member.le table)).map Prod.snd

/-- The names of the columns that each key of the kind covers. -/
def keys (table : Table) (kind : KeyKind) : List (List String) :=
  let singles := table.columns.filter fun column => kind.marker? column == some .single
  singles.map (fun column => [column.name]) ++
    (table.compositeGroups kind).map (·.map fun position => table.columns[position].name)

end Table

end SqlCraft
