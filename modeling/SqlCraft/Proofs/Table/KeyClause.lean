/-
**Every marked column is in one key clause of its kind.**

The lines of a table's definition are its columns, its primary key, and the clauses of its keys. A line
tells by its first words what it is, and the names in a clause can be read back, so that the clauses of
a kind are found in the definition itself:

* `KeyKind.readClause?` — the columns that a clause of the kind covers;
* `readClause?_definitionLines` — the clauses of a definition are the keys of the table;
* `KeyClauses` — clauses that cover every column as its marker says, and none twice;
* `compositeGroups_components` — the groups of a sound table are the components of its composite
  markers, and the clauses of its definition are these groups and the single columns.
-/

import Mathlib
import SqlCraft.Proofs.Migration.Command
import SqlCraft.Proofs.Table.KeyGroup

namespace SqlCraft

open Sql (quote quoteList readName?)

/-! ### Reading lists of names -/

namespace Sql

theorem readName?_length {text behind : List Char} {name : String}
    (read : readName? text = some (name, behind)) : behind.length < text.length := by
  unfold readName? at read
  split at read
  · obtain ⟨⟨name, behind⟩, closed, same⟩ := Option.map_eq_some_iff.1 read
    cases same
    exact Nat.lt_succ_of_lt (readClosing?_length closed)
  · cases read

/-- Reads quoted names with commas between them; the names and what stands behind them. -/
def readNames? (text : List Char) : Option (List String × List Char) :=
  match _found : readName? text with
  | none => none
  | some (name, ',' :: ' ' :: further) =>
    (readNames? further).map fun (names, behind) => (name :: names, behind)
  | some (name, behind) => some ([name], behind)
termination_by text.length
decreasing_by
  have shorter := readName?_length _found
  simp only [List.length_cons] at shorter
  omega

theorem readNames?_last {text behind : List Char} {name : String}
    (read : readName? text = some (name, behind)) (last : behind.head? ≠ some ',') :
    readNames? text = some ([name], behind) := by
  rw [readNames?]
  split
  · simp_all
  · rename_i found
    cases read.symm.trans found
    exact absurd rfl last
  · simp_all

theorem readNames?_further {text further : List Char} {name : String}
    (read : readName? text = some (name, ',' :: ' ' :: further)) : readNames? text =
      (readNames? further).map fun (names, behind) => (name :: names, behind) := by
  rw [readNames?]
  split <;> simp_all

/-- A list of names is read back, unless the text behind it goes on with a backtick or a comma. -/
theorem readNames?_quoteList (name : String) (names : List String) {rest : List Char}
    (apart : rest.head? ≠ some '\x60' ∧ rest.head? ≠ some ',') :
    readNames? ((quoteList (name :: names)).toList ++ rest) = some (name :: names, rest) := by
  rw [toList_quoteList_cons, List.append_assoc]
  induction names generalizing name with
  | nil => exact readNames?_last (readName?_quote name apart.1) apart.2
  | cons second names ih =>
    have behind : furtherNames (second :: names) ++ rest =
        ',' :: ' ' :: ((quote second).toList ++ (furtherNames names ++ rest)) := by
      simp [furtherNames]
    have boundary : (furtherNames (second :: names) ++ rest).head? ≠ some '\x60' :=
      head?_furtherNames_append apart.1
    have read := readName?_quote name boundary
    rw [behind] at read ⊢
    rw [readNames?_further read, ih second]
    rfl

end Sql

/-! ### Reading clauses -/

/-- Reads a clause of the kind; the columns that it covers. -/
def KeyKind.readClause? (kind : KeyKind) (line : String) : Option (List String) := do
  let (_, text) ← Command.readNamed? (kind.keyword ++ " ") line.toList
  let text ← text.dropPrefix? " (".toList
  let (names, _) ← Sql.readNames? text
  return names

namespace Table

variable (table : Table) (kind : KeyKind)

/-! A line that is no key of the kind does not begin with the words for it. -/

theorem dropPrefix?_keySql {other : KeyKind} (differ : other ≠ kind) (names : List String) :
    (table.keySql other names).toList.dropPrefix? (kind.keyword ++ " ").toList = none := by
  cases kind <;> cases other
  case index.index | unique.unique => exact absurd rfl differ
  all_goals simp [keySql, KeyKind.keyword, List.dropPrefix?]

theorem dropPrefix?_columnSql (column : Column) :
    column.sql.toList.dropPrefix? (kind.keyword ++ " ").toList = none := by
  cases kind <;> simp [Column.sql, quote, KeyKind.keyword, List.dropPrefix?]

theorem dropPrefix?_primaryKeySql {line : String} (inside : line ∈ table.primaryKeySql) :
    line.toList.dropPrefix? (kind.keyword ++ " ").toList = none := by
  unfold primaryKeySql at inside
  split at inside
  · cases inside
  · rw [List.mem_singleton.1 inside]
    cases kind <;> simp [KeyKind.keyword, List.dropPrefix?]

theorem readClause?_keySql (name : String) (names : List String) :
    kind.readClause? (table.keySql kind (name :: names)) = some (name :: names) := by
  have text : (table.keySql kind (name :: names)).toList = (kind.keyword ++ " ").toList ++
      ((quote (table.keyName kind (name :: names))).toList ++
        (" (".toList ++ ((quoteList (name :: names)).toList ++ ")".toList))) := by
    simp only [keySql, String.toList_append, List.append_assoc]
  have opened (behind : List Char) : (" (".toList ++ behind).dropPrefix? " (".toList = some behind :=
    List.dropPrefix?_append_of_beq _ BEq.rfl
  rw [KeyKind.readClause?, text, Command.readNamed?_quote _ _ (by simp)]
  simp only [Option.bind_eq_bind, Option.bind_some, opened]
  rw [Sql.readNames?_quoteList _ _ (by simp)]
  rfl

/-- What begins with other words is no clause of the kind. -/
theorem readClause?_eq_none {line : String}
    (other : line.toList.dropPrefix? (kind.keyword ++ " ").toList = none) :
    kind.readClause? line = none := by
  rw [KeyKind.readClause?, Command.readNamed?, other]
  rfl

theorem readClause?_keySql_of_ne {other : KeyKind} (differ : other ≠ kind) (names : List String) :
    kind.readClause? (table.keySql other names) = none :=
  readClause?_eq_none kind (dropPrefix?_keySql table kind differ names)

theorem readClause?_columnSql (column : Column) : kind.readClause? column.sql = none :=
  readClause?_eq_none kind (dropPrefix?_columnSql kind column)

theorem readClause?_primaryKeySql : table.primaryKeySql.filterMap kind.readClause? = [] :=
  List.filterMap_eq_nil_iff.2 fun _ inside =>
    readClause?_eq_none kind (dropPrefix?_primaryKeySql table kind inside)

/-- **The clauses of a kind in a definition are the keys of the table**, if none of them is empty. -/
theorem readClause?_definitionLines (named : [] ∉ table.keys kind) :
    table.definitionLines.filterMap kind.readClause? = table.keys kind := by
  have mine (keys : List (List String)) (named : [] ∉ keys) :
      (keys.map (table.keySql kind)).filterMap kind.readClause? = keys := by
    induction keys with
    | nil => rfl
    | cons names keys ih =>
      obtain ⟨first, others⟩ := not_or.1 (mt List.mem_cons.2 named)
      obtain ⟨name, names, rfl⟩ := List.exists_cons_of_ne_nil (Ne.symm first)
      rw [List.map_cons, List.filterMap_cons, readClause?_keySql, ih others]
  have theirs {other : KeyKind} (differ : other ≠ kind) (keys : List (List String)) :
      (keys.map (table.keySql other)).filterMap kind.readClause? = [] := by
    rw [List.filterMap_eq_nil_iff]
    intro line inside
    obtain ⟨names, -, rfl⟩ := List.mem_map.1 inside
    exact table.readClause?_keySql_of_ne kind differ names
  have columns : (table.columns.map Column.sql).filterMap kind.readClause? = [] := by
    rw [List.filterMap_eq_nil_iff]
    intro line inside
    obtain ⟨column, -, rfl⟩ := List.mem_map.1 inside
    exact readClause?_columnSql kind column
  rw [definitionLines, List.filterMap_append, List.filterMap_append, columns,
    readClause?_primaryKeySql, List.nil_append, List.nil_append]
  cases kind
  · simp [mine _ named, theirs]
  · simp [mine _ named, theirs]

/-! ### What the clauses cover -/

/-- The clauses of a kind cover every column that carries a marker of the kind, in the way it says. -/
structure KeyClauses (clauses : List (List String)) : Prop where
  /-- No column is in two clauses, or twice in one. -/
  once : clauses.flatten.Nodup
  marked : ∀ name, name ∈ clauses.flatten ↔
    ∃ position : table.Position, (table.columnAt position).name = name ∧
      (kind.marker? (table.columnAt position)).isSome
  /-- A single marker makes a clause of its own. -/
  single : ∀ position : table.Position, kind.marker? (table.columnAt position) = some .single →
    (clauses.filter fun clause => (table.columnAt position).name ∈ clause) =
      [[(table.columnAt position).name]]
  /-- The members of a group are in the clause of the group, and in no other. -/
  grouped : ∀ group ∈ table.compositeGroups kind, ∀ position ∈ group,
    (clauses.filter fun clause => (table.columnAt position).name ∈ clause) =
      [group.map fun member => (table.columnAt member).name]

/-- What is in one of some lists without repetitions is in no other of them. -/
theorem filter_mem_of_nodup_flatten {clauses : List (List String)} (once : clauses.flatten.Nodup)
    {clause : List String} (inside : clause ∈ clauses) {name : String} (held : name ∈ clause) :
    (clauses.filter fun clause => name ∈ clause) = [clause] := by
  obtain ⟨before, after, rfl⟩ := List.append_of_mem inside
  rw [List.flatten_append, List.flatten_cons] at once
  obtain ⟨-, behind, apart⟩ := List.nodup_append'.1 once
  have missing {others : List (List String)} (none : name ∉ others.flatten) :
      (others.filter fun clause => name ∈ clause) = [] := by
    refine List.filter_eq_nil_iff.2 fun other among within => none ?_
    exact List.mem_flatten.2 ⟨other, among, decide_eq_true_iff.1 within⟩
  have first : name ∉ before.flatten :=
    fun within => apart within (List.mem_append_left _ held)
  have last : name ∉ after.flatten := (List.nodup_append'.1 behind).2.2 held
  rw [List.filter_append, missing first, List.nil_append, List.filter_cons, missing last]
  exact if_pos (decide_eq_true held)

variable {table} {kind}

/-- A member of a group carries a composite marker. -/
theorem KeyComponents.marker {groups : List (List table.Position)}
    (components : table.KeyComponents kind groups) {position : table.Position}
    (held : position ∈ groups.flatten) :
    ∃ partners order, kind.marker? (table.columnAt position) = some (.composite partners order) := by
  obtain ⟨group, inside, within⟩ := List.mem_flatten.1 held
  have declares := ((components.component group inside position within position).1 within).1
  unfold DeclaresKey composite? at declares
  split at declares
  · exact ⟨_, _, ‹_›⟩
  · cases declares

theorem flatten_keys : (table.keys kind).flatten =
    ((table.columns.filter fun column => kind.marker? column == some .single).map Column.name) ++
      (table.compositeGroups kind).flatten.map fun position => (table.columnAt position).name := by
  rw [keys, List.flatten_append, List.map_flatten]
  congr 1
  induction table.columns.filter _ with
  | nil => rfl
  | cons column columns ih => rw [List.map_cons, List.flatten_cons, ih]; rfl

/-- **The keys of a table cover its columns as their markers say.** -/
theorem keyClauses (distinct : table.columnNames.Nodup) :
    table.KeyClauses kind (table.keys kind) := by
  have components : table.KeyComponents kind (table.compositeGroups kind) := keyComponents distinct
  have once : (table.keys kind).flatten.Nodup := by
    rw [flatten_keys, List.nodup_append']
    refine ⟨distinct.sublist (List.filter_sublist.map _), components.once.map fun first second => ?_,
      fun name single grouped => ?_⟩
    · exact position_inj distinct
    · obtain ⟨column, chosen, named⟩ := List.mem_map.1 single
      obtain ⟨declared, alone⟩ := List.mem_filter.1 chosen
      obtain ⟨position, held, same⟩ := List.mem_map.1 grouped
      obtain ⟨partners, order, marker⟩ := components.marker held
      have here : column = table.columnAt position :=
        List.inj_on_of_nodup_map distinct declared (List.get_mem _ _) (named.trans same.symm)
      rw [here, marker] at alone
      cases alone
  refine ⟨once, fun name => ⟨fun held => ?_, ?_⟩, fun position marker => ?_,
    fun group inside position held => ?_⟩
  · rw [flatten_keys, List.mem_append, List.mem_map, List.mem_map] at held
    rcases held with ⟨column, chosen, named⟩ | ⟨position, held, named⟩
    · obtain ⟨declared, alone⟩ := List.mem_filter.1 chosen
      obtain ⟨place, bound, rfl⟩ := List.getElem_of_mem declared
      exact ⟨⟨place, bound⟩, named, Option.isSome_iff_exists.2 ⟨_, beq_iff_eq.1 alone⟩⟩
    · obtain ⟨partners, order, marker⟩ := components.marker held
      exact ⟨position, named, by rw [marker]; rfl⟩
  · rintro ⟨position, rfl, carries⟩
    obtain ⟨marker, marked⟩ := Option.isSome_iff_exists.1 carries
    rw [flatten_keys, List.mem_append]
    cases marker with
    | single =>
      refine .inl (List.mem_map_of_mem (List.mem_filter.2 ⟨List.get_mem _ _, ?_⟩))
      exact beq_iff_eq.2 marked
    | composite partners order =>
      refine .inr (List.mem_map_of_mem (components.covered position ?_))
      rw [DeclaresKey, composite?, marked]
      rfl
  · refine filter_mem_of_nodup_flatten once (List.mem_append_left _ ?_) List.mem_cons_self
    refine List.mem_map_of_mem (List.mem_filter.2 ⟨List.get_mem _ _, ?_⟩)
    exact beq_iff_eq.2 marker
  · refine filter_mem_of_nodup_flatten once (List.mem_append_right _ ?_) ?_
    · exact List.mem_map_of_mem inside
    · exact List.mem_map_of_mem held

/-- Every key covers a column. -/
theorem nil_notMem_keys (distinct : table.columnNames.Nodup) : [] ∉ table.keys kind := by
  have components : table.KeyComponents kind (table.compositeGroups kind) := keyComponents distinct
  intro empty
  rcases List.mem_append.1 empty with single | grouped
  · obtain ⟨column, -, none⟩ := List.mem_map.1 single
    cases none
  · obtain ⟨group, inside, none⟩ := List.mem_map.1 grouped
    exact components.nonempty (List.map_eq_nil_iff.1 none ▸ inside)

/-- **Composite keys are the connected components.** The groups of a sound table are the components of
its composite markers, and in its definition every marked column is in one clause of the kind: alone,
or with its group. -/
theorem compositeGroups_components (table : Table) (sound : table.validate = .ok ()) (kind : KeyKind) :
    table.KeyComponents kind (table.compositeGroups kind) ∧
      table.KeyClauses kind (table.definitionLines.filterMap kind.readClause?) := by
  have distinct := nodup_columnNames sound
  rw [table.readClause?_definitionLines kind (nil_notMem_keys distinct)]
  exact ⟨keyComponents distinct, keyClauses distinct⟩

/-- Seats of a hall: a unique key over three columns, of which the middle one carries no marker. -/
def seats : Table where
  name := "seats"
  columns := [
    { name := "hall", type := .int, unique := some (.composite ["row"] 2) },
    { name := "row", type := .int },
    { name := "place", type := .int, unique := some (.composite ["row"] (-1)) },
    { name := "code", type := .char, unique := some .single }]

theorem compositeGroups_components_seats : seats.validate = .ok () ∧
    seats.KeyComponents .unique (seats.compositeGroups .unique) ∧
    seats.KeyClauses .unique [["code"], ["place", "hall"]] := by
  have sound : seats.validate = .ok () := by decide +kernel
  have clauses : seats.definitionLines.filterMap KeyKind.unique.readClause? =
      [["code"], ["place", "hall"]] := by cbv
  exact ⟨sound, clauses ▸ compositeGroups_components seats sound .unique⟩

end Table

end SqlCraft
