/-
**Which foreign key a join follows.**

Two tables are linked by the foreign keys that one of them holds on the other, and there may be several. An
include that is named like a field of the table above follows the key of that field, if this leads to the
included table. Otherwise it follows the first link on the way through the columns of the included
table, where a column's own key comes before the keys that lead to the column.

* `Join.Linked` — whether there is a link at all;
* `Join.Follows` — the join of an include, one rule for each way to find its key;
* `Join.choose_iff` — this is the join that is chosen;
* `Join.choose_judged` — an include is refused exactly if there is no link;
* `Join.linked_iff` — there is a link exactly if there is a join by one.
-/

import SqlCraft.Proofs.Compiled
import SqlCraft.Proofs.Table.Soundness
import SqlCraft.Query.Join

namespace SqlCraft

/-- A table declares the names of its columns. -/
theorem Table.declares_iff {table : Table} {name : String} :
    table.declares name ↔ ∃ column ∈ table.columns, column.name = name := by
  simp only [declares, column?, List.find?_isSome, beq_iff_eq]

theorem Table.mem_foreignKeys {table : Table} {field : String} {key : ForeignKey} :
    (field, key) ∈ table.foreignKeys ↔
      ∃ column ∈ table.columns, column.name = field ∧ column.foreignKey = some key := by
  simp only [foreignKeys, List.mem_filterMap, Option.map_eq_some_iff, Prod.mk.injEq]
  constructor
  · rintro ⟨column, inside, _, held, same, rfl⟩
    exact ⟨column, inside, same, held⟩
  · rintro ⟨column, inside, same, held⟩
    exact ⟨column, inside, key, held, same, rfl⟩

/-- In a table with distinct columns a field holds one foreign key. -/
theorem Table.foreignKey_unique {table : Table} (distinct : table.columnNames.Nodup) {field : String}
    {key other : ForeignKey} (first : (field, key) ∈ table.foreignKeys)
    (second : (field, other) ∈ table.foreignKeys) : key = other := by
  obtain ⟨column, inside, same, held⟩ := mem_foreignKeys.1 first
  obtain ⟨rival, among, sameToo, heldToo⟩ := mem_foreignKeys.1 second
  have one : column = rival :=
    List.inj_on_of_nodup_map distinct inside among (same.trans sameToo.symm)
  rw [one, heldToo] at held
  exact (Option.some.inj held).symm

namespace Join

variable {parent child : Table} {column : Column} {key : String} {join : Join}

/-! ### Links -/

/-- The tables are linked at a column of the included one: by its own foreign key to the table above, or by
a foreign key of the table above to the column. -/
def LinkedAt (parent child : Table) (column : Column) : Prop :=
  (∃ link, column.foreignKey = some link ∧ link.table = parent.name) ∨
    ∃ field link, (field, link) ∈ parent.foreignKeys ∧ link.table = child.name ∧
      link.field = column.name

/-- The tables are linked at some column. -/
def Linked (parent child : Table) : Prop := ∃ column ∈ child.columns, LinkedAt parent child column

/-- The foreign key that a field of the table above holds leads to a declared field of the included
table. -/
def Named (parent child : Table) (field : String) (link : ForeignKey) : Prop :=
  (field, link) ∈ parent.foreignKeys ∧ link.table = child.name ∧ child.declares link.field

/-- The join by the first link at a column. -/
inductive FirstAt (parent child : Table) (column : Column) : Join → Prop where
  /-- The column's own key to the table above. -/
  | own {link : ForeignKey} (held : column.foreignKey = some link) (leads : link.table = parent.name) :
      FirstAt parent child column
        ⟨child.name, ⟨parent.name, link.field⟩, ⟨child.name, column.name⟩⟩
  /-- Else the first key of the table above to the column. -/
  | other (apart : ∀ link, column.foreignKey = some link → link.table ≠ parent.name)
      {earlier later : List (String × ForeignKey)} {field : String} {link : ForeignKey}
      (keys : parent.foreignKeys = earlier ++ (field, link) :: later)
      (first : ∀ entry ∈ earlier, ¬ (entry.2.table = child.name ∧ entry.2.field = column.name))
      (leads : link.table = child.name ∧ link.field = column.name) :
      FirstAt parent child column
        ⟨child.name, ⟨child.name, column.name⟩, ⟨parent.name, field⟩⟩

/-- The join of a table that is included under a key. -/
inductive Follows (parent child : Table) (key : String) : Join → Prop where
  /-- By the key of the table above that the include is named like. -/
  | named {link : ForeignKey} (names : Named parent child key link) :
      Follows parent child key ⟨child.name, ⟨child.name, link.field⟩, ⟨parent.name, key⟩⟩
  /-- Else by the first link at the first column that has one. -/
  | first (unnamed : ∀ link, ¬ Named parent child key link) {before after : List Column}
      {column : Column} (columns : child.columns = before ++ column :: after)
      (none : ∀ other ∈ before, ¬ LinkedAt parent child other) {join : Join}
      (meets : FirstAt parent child column join) : Follows parent child key join

/-! ### The links at a column -/

theorem mem_ownLink {found : Link} : found ∈ ownLink parent child column ↔
    ∃ link, column.foreignKey = some link ∧ link.table = parent.name ∧
      found = ⟨none, child.name, ⟨parent.name, link.field⟩, ⟨child.name, column.name⟩⟩ := by
  unfold ownLink
  cases column.foreignKey with
  | none => simp
  | some link =>
    by_cases leads : link.table = parent.name
    · simp [leads]
    · simp [leads]

theorem mem_parentLinks {found : Link} : found ∈ parentLinks parent child column ↔
    ∃ field link, (field, link) ∈ parent.foreignKeys ∧
      (link.table = child.name ∧ link.field = column.name) ∧
      found = ⟨some field, child.name, ⟨child.name, column.name⟩, ⟨parent.name, field⟩⟩ := by
  simp only [parentLinks, List.mem_filterMap, Prod.exists, Option.ite_none_right_eq_some,
    Option.some.injEq, eq_comm (a := found)]

/-- The links at a column: by its own key, then by the keys of the table above. -/
def linksAt (parent child : Table) (column : Column) : List Link :=
  ownLink parent child column ++ parentLinks parent child column

theorem linksAt_eq_nil_iff : linksAt parent child column = [] ↔ ¬ LinkedAt parent child column := by
  rw [List.eq_nil_iff_forall_not_mem]
  simp only [linksAt, List.mem_append, mem_ownLink, mem_parentLinks, LinkedAt]
  constructor
  · rintro none (⟨link, held, leads⟩ | ⟨field, link, held, leads⟩)
    · exact none _ (.inl ⟨link, held, leads, rfl⟩)
    · exact none _ (.inr ⟨field, link, held, leads, rfl⟩)
  · rintro none found (⟨link, held, leads, -⟩ | ⟨field, link, held, leads, -⟩)
    · exact none (.inl ⟨link, held, leads⟩)
    · exact none (.inr ⟨field, link, held, leads⟩)

theorem head?_parentLinks {found : Link} : (parentLinks parent child column).head? = some found ↔
    ∃ earlier field link later, parent.foreignKeys = earlier ++ (field, link) :: later ∧
      (∀ entry ∈ earlier, ¬ (entry.2.table = child.name ∧ entry.2.field = column.name)) ∧
      (link.table = child.name ∧ link.field = column.name) ∧
      found = ⟨some field, child.name, ⟨child.name, column.name⟩, ⟨parent.name, field⟩⟩ := by
  rw [parentLinks, List.head?_filterMap, List.findSome?_eq_some_iff]
  constructor
  · rintro ⟨earlier, ⟨field, link⟩, later, keys, made, first⟩
    simp only [Option.ite_none_right_eq_some, Option.some.injEq] at made
    refine ⟨earlier, field, link, later, keys, fun entry inside => ?_, made.1, made.2.symm⟩
    simpa using first entry inside
  · rintro ⟨earlier, field, link, later, keys, first, leads, rfl⟩
    refine ⟨earlier, (field, link), later, keys, if_pos leads, fun entry inside => ?_⟩
    simpa using first entry inside

/-- **The first link at a column.** -/
theorem head?_linksAt : (linksAt parent child column).head?.map Link.join = some join ↔
    FirstAt parent child column join := by
  rw [linksAt, List.head?_append]
  by_cases own : ∃ link, column.foreignKey = some link ∧ link.table = parent.name
  · obtain ⟨link, held, leads⟩ := own
    have links : ownLink parent child column =
        [⟨none, child.name, ⟨parent.name, link.field⟩, ⟨child.name, column.name⟩⟩] := by
      simp [ownLink, held, leads]
    rw [links]
    constructor
    · rintro ⟨⟩
      exact .own held leads
    · rintro (⟨heldToo, -⟩ | ⟨apart, -, -, -⟩)
      · cases held.symm.trans heldToo
        rfl
      · exact absurd leads (apart link held)
  · have links : ownLink parent child column = [] := by
      refine List.eq_nil_iff_forall_not_mem.2 fun found inside => ?_
      obtain ⟨link, held, leads, -⟩ := mem_ownLink.1 inside
      exact own ⟨link, held, leads⟩
    rw [links, List.head?_nil, Option.none_or]
    constructor
    · intro found
      obtain ⟨link, among, rfl⟩ := Option.map_eq_some_iff.1 found
      obtain ⟨earlier, field, key, later, keys, first, leads, rfl⟩ := head?_parentLinks.1 among
      exact .other (fun link held leads => own ⟨link, held, leads⟩) keys first leads
    · rintro (⟨held, leads⟩ | ⟨-, keys, first, leads⟩)
      · exact absurd ⟨_, held, leads⟩ own
      · rw [head?_parentLinks.2 ⟨_, _, _, _, keys, first, leads, rfl⟩]
        rfl

/-- The first link of all is that at the first column that has one. -/
theorem head?_links : (links parent child).head?.map Link.join = some join ↔
    ∃ before column after, child.columns = before ++ column :: after ∧
      (∀ other ∈ before, ¬ LinkedAt parent child other) ∧ FirstAt parent child column join := by
  have found : (links parent child).head? =
      child.columns.findSome? fun column => (linksAt parent child column).head? :=
    List.head?_flatMap
  constructor
  · intro chosen
    obtain ⟨link, first, same⟩ := Option.map_eq_some_iff.1 chosen
    rw [found] at first
    obtain ⟨before, column, after, columns, here, none⟩ := List.findSome?_eq_some_iff.1 first
    refine ⟨before, column, after, columns, fun other inside => ?_, ?_⟩
    · exact linksAt_eq_nil_iff.1 (List.head?_eq_none_iff.1 (none other inside))
    · exact head?_linksAt.1 (Option.map_eq_some_iff.2 ⟨link, here, same⟩)
  · rintro ⟨before, column, after, columns, none, meets⟩
    obtain ⟨link, here, same⟩ := Option.map_eq_some_iff.1 (head?_linksAt.2 meets)
    refine Option.map_eq_some_iff.2 ⟨link, ?_, same⟩
    rw [found]
    refine List.findSome?_eq_some_iff.2 ⟨before, column, after, columns, here, fun other inside => ?_⟩
    exact List.head?_eq_none_iff.2 (linksAt_eq_nil_iff.2 (none other inside))

/-! ### The chosen link -/

theorem mem_links_named {found : Link} :
    found ∈ links parent child ∧ found.via = some key ↔
      ∃ link, Named parent child key link ∧
        found = ⟨some key, child.name, ⟨child.name, link.field⟩, ⟨parent.name, key⟩⟩ := by
  constructor
  · rintro ⟨inside, via⟩
    obtain ⟨column, among, here⟩ := List.mem_flatMap.1 inside
    rcases List.mem_append.1 here with own | other
    · obtain ⟨link, -, -, rfl⟩ := mem_ownLink.1 own
      cases via
    · obtain ⟨field, link, held, ⟨leads, same⟩, rfl⟩ := mem_parentLinks.1 other
      cases via
      exact ⟨link, ⟨held, leads, Table.declares_iff.2 ⟨column, among, same.symm⟩⟩, by rw [same]⟩
  · rintro ⟨link, ⟨held, leads, declared⟩, rfl⟩
    obtain ⟨column, among, same⟩ := Table.declares_iff.1 declared
    refine ⟨List.mem_flatMap.2 ⟨column, among, List.mem_append_right _ ?_⟩, rfl⟩
    exact mem_parentLinks.2 ⟨key, link, held, ⟨leads, same.symm⟩, by rw [same]⟩

theorem choose_eq_ok : choose parent child key = .ok join ↔
    ((links parent child).find? (fun link => link.via == some key) <|>
      (links parent child).head?).map Link.join = some join := by
  unfold choose
  dsimp only
  split
  · rename_i link found
    rw [found]
    simp
  · rename_i none
    rw [none]
    simp

/-- **The join that is chosen is the one that the keys determine**, if the table above has distinct
columns. -/
theorem choose_iff (distinct : parent.columnNames.Nodup) :
    choose parent child key = .ok join ↔ Follows parent child key join := by
  rw [choose_eq_ok]
  cases named : (links parent child).find? fun link => link.via == some key with
  | some found =>
    have among := List.mem_of_find?_eq_some named
    have via := List.find?_some named
    obtain ⟨link, names, rfl⟩ := mem_links_named.1 ⟨among, beq_iff_eq.1 via⟩
    constructor
    · rintro ⟨⟩
      exact .named names
    · rintro (⟨⟨held, -⟩⟩ | ⟨unnamed, -, -, -⟩)
      -- A field of two columns could hold two keys; here it is one column.
      · cases Table.foreignKey_unique distinct held names.1
        rfl
      · exact absurd names (unnamed link)
  | none =>
    have unnamed : ∀ link, ¬ Named parent child key link := by
      intro link names
      obtain ⟨among, via⟩ := mem_links_named.2 ⟨link, names, rfl⟩
      exact List.find?_eq_none.1 named _ among (beq_iff_eq.2 via)
    have only : Follows parent child key join ↔ ∃ before column after,
        child.columns = before ++ column :: after ∧
        (∀ other ∈ before, ¬ LinkedAt parent child other) ∧ FirstAt parent child column join := by
      constructor
      · rintro (⟨names⟩ | ⟨-, columns, none, meets⟩)
        · exact absurd names (unnamed _)
        · exact ⟨_, _, _, columns, none, meets⟩
      · rintro ⟨before, column, after, columns, none, meets⟩
        exact .first unnamed columns none meets
    rw [only, ← head?_links]
    rfl

/-! ### Tables without a link -/

theorem links_eq_nil_iff : links parent child = [] ↔ ¬ Linked parent child := by
  rw [links, List.flatMap_eq_nil_iff, Linked, not_exists]
  refine forall_congr' fun column => ?_
  rw [not_and]
  exact imp_congr_right fun _ => linksAt_eq_nil_iff

instance : Decidable (Linked parent child) :=
  decidable_of_iff (links parent child ≠ []) (not_iff_comm.1 links_eq_nil_iff.symm)

/-- **An include is refused exactly if there is no link**, whatever key it has. -/
theorem choose_judged (parent child : Table) (key : String) :
    Judged (choose parent child key)
      (if Linked parent child then [] else [.unrelated parent.name child.name]) := by
  split
  · rename_i linked
    have nonempty := mt links_eq_nil_iff.1 (not_not_intro linked)
    obtain ⟨link, rest, links⟩ := List.exists_cons_of_ne_nil nonempty
    unfold choose
    dsimp only
    rw [links]
    cases (link :: rest).find? fun link => link.via == some key <;> exact .passed _ rfl
  · rename_i apart
    have none := links_eq_nil_iff.2 apart
    refine .refused _ [] ?_
    rw [choose, none]
    rfl

/-- There is a link exactly if there is a join by one, whatever key the include has. -/
theorem linked_iff (distinct : parent.columnNames.Nodup) (key : String) :
    Linked parent child ↔ ∃ join, Follows parent child key join := by
  have chosen : (∃ join, Follows parent child key join) ↔ ∃ join, choose parent child key = .ok join :=
    exists_congr fun join => (choose_iff distinct).symm
  rw [chosen, (choose_judged parent child key).ok_iff]
  simp

end Join

end SqlCraft
