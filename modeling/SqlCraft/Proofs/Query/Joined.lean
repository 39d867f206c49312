/-
**How the tables of a query are joined.**

Every node of a query but the root is joined to the node that includes it, by a foreign key that one of their
tables holds on the other. If there are several, the name of the include and the order of the columns decide.
If there is none, the query is refused, unless something is wrong before.

* `Tree.Visit.JoinedBy` — the join of an included node;
* `Query.compile_joinedBy` — a select joins the included nodes in pre-order;
* `Query.build_unrelated_iff` — which queries are refused for an include without a link;
* `Query.build_joins` — both, on the text of a query.
-/

import SqlCraft.Proofs.Query.Listing
import SqlCraft.Proofs.Query.Offence
import SqlCraft.Proofs.Query.Tables

namespace SqlCraft

open Sql
open List (Forall₂)

/-! ### The joins of a select -/

namespace Tree.Visit

/-- The join of an included node, by the key that it follows between its table and the one above. -/
def JoinedBy (visit : Visit QueryNode) (join : Join) : Prop :=
  ∃ key parent, visit.above = some (key, parent) ∧
    Join.Follows parent.table visit.label.table key join

/-- The table above has distinct columns. -/
def IsDistinct (visit : Visit QueryNode) : Prop :=
  ∀ key parent, visit.above = some (key, parent) → parent.table.columnNames.Nodup

theorem joinedBy_of_join? {visit : Visit QueryNode} {found : Option Join} (distinct : visit.IsDistinct)
    (compiled : visit.label.join? visit.above = .ok found) (below : ∃ above, visit.above = some above) :
    ∃ join, found = some join ∧ visit.JoinedBy join := by
  obtain ⟨⟨key, parent⟩, reached⟩ := below
  rw [reached] at compiled
  obtain ⟨join, chosen, rfl⟩ := map_eq_ok compiled
  have follows := (Join.choose_iff (distinct key parent reached)).1 chosen
  exact ⟨join, rfl, key, parent, reached, follows⟩

theorem JoinedBy.unique {visit : Visit QueryNode} (distinct : visit.IsDistinct) {join other : Join}
    (first : visit.JoinedBy join) (second : visit.JoinedBy other) : join = other := by
  obtain ⟨key, parent, reached, follows⟩ := first
  obtain ⟨_, _, again, followsToo⟩ := second
  rw [reached] at again
  cases again
  have chosen := (Join.choose_iff (distinct key parent reached)).2 follows
  have chosenToo := (Join.choose_iff (distinct key parent reached)).2 followsToo
  exact Except.ok.inj (chosen.symm.trans chosenToo)

end Tree.Visit

namespace Query

variable {query : Query}

/-- The nodes that are included have one join each. -/
theorem joinedBy_of_parts {visits : List (Tree.Visit QueryNode)} {found : List SelectPart}
    (distinct : ∀ visit ∈ visits, visit.IsDistinct)
    (below : ∀ visit ∈ visits, ∃ above, visit.above = some above)
    (parts : Forall₂ (fun visit part => ∃ aggregated,
      visit.label.Contributes visit.above aggregated part) visits found) :
    Forall₂ Tree.Visit.JoinedBy visits (found.filterMap SelectPart.join) := by
  induction parts with
  | nil => exact .nil
  | @cons visit part visits found here _ ih =>
    obtain ⟨first, others⟩ := List.forall_mem_cons.1 distinct
    obtain ⟨included, later⟩ := List.forall_mem_cons.1 below
    obtain ⟨_, contributes⟩ := here
    obtain ⟨join, joined, joinedBy⟩ := visit.joinedBy_of_join? first contributes.join included
    rw [List.filterMap_cons_some joined]
    exact .cons joinedBy (ih others later)

theorem joinedBy_unique {visits : List (Tree.Visit QueryNode)} {joins others : List Join}
    (distinct : ∀ visit ∈ visits, visit.IsDistinct) (first : Forall₂ Tree.Visit.JoinedBy visits joins)
    (second : Forall₂ Tree.Visit.JoinedBy visits others) : joins = others := by
  induction first generalizing others with
  | nil =>
    cases second
    rfl
  | cons here _ ih =>
    obtain ⟨head, tail⟩ := List.forall_mem_cons.1 distinct
    cases second with
    | cons hereToo later => rw [here.unique head hereToo, ih tail later]

/-- Where all tables are valid, the table above a node has distinct columns. -/
theorem isDistinct_of_valid (valid : ∀ node ∈ query.preorder, node.table.validate = .ok ()) :
    ∀ visit ∈ query.visits, visit.IsDistinct := by
  intro visit visited key parent reached
  rcases Tree.above_visitsFrom none query visit visited with root | ⟨_, _, above, below⟩
  · rw [root] at reached
    cases reached
  · rw [below] at reached
    cases reached
    exact Table.nodup_columnNames (valid parent above)

/-- **A select joins the included nodes**, in pre-order, and nothing else. -/
theorem compile_joinedBy (distinct : ∀ visit ∈ query.visits, visit.IsDistinct) {select : Select}
    (compiled : query.compile = .ok select) :
    Forall₂ Tree.Visit.JoinedBy query.visits.tail select.joins := by
  obtain ⟨root, found, rfl, unjoined, below, parts⟩ := compile_included compiled
  have included : ∀ visit ∈ query.visits.tail, visit.IsDistinct := fun visit inside =>
    distinct visit (List.mem_of_mem_tail inside)
  rw [assemble, List.filterMap_cons_none unjoined]
  exact joinedBy_of_parts included below parts

end Query

/-! ### Includes without a link -/

theorem Filter.unrelated_not_mem_offences (table : Table) (filter : Filter) (parent child : String) :
    .unrelated parent child ∉ filter.offences table := by
  intro inside
  obtain ⟨place, -, offends⟩ := List.mem_flatMap.1 inside
  cases place <;> simp [Place.offences, Table.fieldOffences] at offends

namespace Tree.Position

variable {position : Position QueryNode} {parent child : String}

theorem unrelated_not_mem_fieldOffences (table : Table) (fields : List String) :
    .unrelated parent child ∉ fields.flatMap table.fieldOffences := by
  intro inside
  obtain ⟨field, -, offends⟩ := List.mem_flatMap.1 inside
  simp [Table.fieldOffences] at offends

theorem unrelated_not_mem_entryOffences : .unrelated parent child ∉ position.entryOffences := by
  have shown : .unrelated parent child ∉
      (position.label.shownFields position.isBehindAggregate).flatMap
        position.label.table.fieldOffences := unrelated_not_mem_fieldOffences _ _
  have filtered := position.label.filter.unrelated_not_mem_offences position.label.table parent child
  simp [entryOffences, shown, filtered]

theorem head?_linkOffences : position.linkOffences.head? = some (.unrelated parent child) ↔
    ∃ key node, position.above = some (key, node) ∧
      ¬ Join.Linked node.table position.label.table ∧
      node.table.name = parent ∧ position.label.table.name = child := by
  unfold linkOffences
  cases position.above with
  | none => simp
  | some above =>
    obtain ⟨key, node⟩ := above
    by_cases linked : Join.Linked node.table position.label.table <;> simp [linked]

/-- The first that is wrong at a node is that it has no link. -/
theorem head?_offences : position.offences.head? = some (.unrelated parent child) ↔
    position.entryOffences = [] ∧ position.linkOffences.head? = some (.unrelated parent child) := by
  have entered : .unrelated parent child ∉ position.entryOffences := unrelated_not_mem_entryOffences
  have ordered : .unrelated parent child ∉ position.orderOffences :=
    unrelated_not_mem_fieldOffences _ _
  -- Only a missing link offends in this way: it comes first if nothing stands before it.
  unfold offences
  cases entry : position.entryOffences with
  | cons cause further =>
    rw [entry] at entered
    have other : cause ≠ .unrelated parent child := fun same => entered (same ▸ List.mem_cons_self)
    simp [other]
  | nil =>
    cases link : position.linkOffences with
    | cons cause further => simp
    | nil =>
      have other : position.orderOffences.head? ≠ some (.unrelated parent child) := fun first =>
        ordered (List.mem_of_head? first)
      simpa using other

end Tree.Position

namespace Query

variable {query : Query}

/-- The first offence is that of the first node with one. -/
theorem head?_offences {cause : CompileError} : query.offences.head? = some cause ↔
    ∃ before position after, query.positions = before ++ position :: after ∧
      (∀ other ∈ before, other.WellFormed) ∧ position.offences.head? = some cause := by
  rw [offences, List.head?_flatMap, List.findSome?_eq_some_iff]
  refine exists_congr fun before => exists_congr fun position => exists_congr fun after => ?_
  simp only [List.head?_eq_none_iff, Tree.Position.wellFormed_iff, and_comm]

/-- **A query is refused for an include without a link** exactly if there is one, nothing is wrong at the nodes
before, and nothing is wrong with what the node itself pages, shows and filters. -/
theorem build_unrelated_iff (distinct : ∀ visit ∈ query.visits, visit.IsDistinct)
    (above below : String) : query.build = .error (.unrelated above below) ↔
      ∃ before position after key parent, query.positions = before ++ position :: after ∧
        (∀ other ∈ before, other.WellFormed) ∧ position.entryOffences = [] ∧
        position.above = some (key, parent) ∧
        (∀ join, ¬ Join.Follows parent.table position.label.table key join) ∧
        parent.table.name = above ∧ position.label.table.name = below := by
  have unlinked {before after : List (Tree.Position QueryNode)} {position : Tree.Position QueryNode}
      (place : query.positions = before ++ position :: after) {key : String} {parent : QueryNode}
      (reached : position.above = some (key, parent)) :
      ¬ Join.Linked parent.table position.label.table ↔
        ∀ join, ¬ Join.Follows parent.table position.label.table key join := by
    have inside : position ∈ query.positions := place ▸ List.mem_append_right _ List.mem_cons_self
    have visited : position.toVisit ∈ query.visits :=
      query.map_visit_positions ▸ List.mem_map_of_mem inside
    rw [Join.linked_iff (distinct _ visited key parent reached) key, not_exists]
  rw [query.build_judged.error_iff, head?_offences]
  refine exists_congr fun before => exists_congr fun position => exists_congr fun after => ?_
  rw [Tree.Position.head?_offences, Tree.Position.head?_linkOffences]
  constructor
  · rintro ⟨place, sound, entered, key, parent, reached, apart, names⟩
    exact ⟨key, parent, place, sound, entered, reached, (unlinked place reached).1 apart, names⟩
  · rintro ⟨key, parent, place, sound, entered, reached, apart, names⟩
    exact ⟨place, sound, entered, key, parent, reached, (unlinked place reached).2 apart, names⟩

/-- **Joins follow declared foreign keys.** The joins in the text of a query over valid tables are those of
the included nodes, in pre-order, and each follows a foreign key between the table of its node and that of
the node above. A query is refused for an include without such a key exactly if there is one, and nothing
before it is wrong. -/
theorem build_joins (query : Query) (valid : ∀ node ∈ query.preorder, node.table.validate = .ok ()) :
    (∀ built, query.build = .ok built → ∃ tokens, tokens? built.sql built.params = some tokens ∧
      ∀ joins, Forall₂ Tree.Visit.JoinedBy query.visits.tail joins ↔ joins = Join.among tokens) ∧
    ∀ above below, query.build = .error (.unrelated above below) ↔
      ∃ before position after key parent, query.positions = before ++ position :: after ∧
        (∀ other ∈ before, other.WellFormed) ∧ position.entryOffences = [] ∧
        position.above = some (key, parent) ∧
        (∀ join, ¬ Join.Follows parent.table position.label.table key join) ∧
        parent.table.name = above ∧ position.label.table.name = below := by
  have distinct := isDistinct_of_valid valid
  refine ⟨fun built compiled => ?_, build_unrelated_iff distinct⟩
  obtain ⟨select, ran, rfl⟩ := build_eq_ok compiled
  obtain ⟨tokens, read, -, found⟩ := select.tokens?_listed
  have joined := compile_joinedBy distinct ran
  have included : ∀ visit ∈ query.visits.tail, visit.IsDistinct := fun visit inside =>
    distinct visit (List.mem_of_mem_tail inside)
  refine ⟨tokens, read, fun joins => ?_⟩
  rw [found]
  constructor
  · exact fun others => joinedBy_unique included others joined
  · rintro rfl
    exact joined

/-- Two keys to one table, of which an include names the second; a table that includes itself; a key of the
included table; an include that is named like no key; and one that no key leads to. -/
theorem build_joins_posts :
    let users : Table := ⟨"users", [{ name := "id", type := .int, primaryKey := true },
      { name := "best", type := .int, foreignKey := some { table := "posts", field := "id" } },
      { name := "last", type := .int, foreignKey := some { table := "posts", field := "id" } }]⟩
    let posts : Table := ⟨"posts", [{ name := "id", type := .int, primaryKey := true },
      { name := "parent", type := .int, foreignKey := some { table := "posts", field := "id" } }]⟩
    let likes : Table := ⟨"likes", [{ name := "time", type := .datetime },
      { name := "post", type := .int, foreignKey := some { table := "posts", field := "id" } }]⟩
    let included : List (String × Query) :=
      [("thread", .node { table := posts } []), ("likes", .node { table := likes } [])]
    let query : Query := .node { table := users, aggregates := [⟨.count, none, "n"⟩] }
      [("last", .node { table := posts } included), ("posts", .node { table := posts } [])]
    let refused : Query := .node { table := posts } [("parent", .node { table := posts } []),
      ("likes", .node { table := likes } [("user", .node { table := users } [])])]
    let built : Sql.BoundText := ⟨"SELECT COUNT(*) AS \x60n\x60 FROM \x60users\x60 " ++
      "LEFT JOIN \x60posts\x60 ON \x60posts\x60.\x60id\x60 = \x60users\x60.\x60last\x60 " ++
      "LEFT JOIN \x60posts\x60 ON \x60posts\x60.\x60id\x60 = \x60posts\x60.\x60parent\x60 " ++
      "LEFT JOIN \x60likes\x60 ON \x60posts\x60.\x60id\x60 = \x60likes\x60.\x60post\x60 " ++
      "LEFT JOIN \x60posts\x60 ON \x60posts\x60.\x60id\x60 = \x60users\x60.\x60best\x60", []⟩
    query.build = .ok built ∧
    (∃ tokens, tokens? built.sql built.params = some tokens ∧
      Join.among tokens = [⟨"posts", ⟨"posts", "id"⟩, ⟨"users", "last"⟩⟩,
        ⟨"posts", ⟨"posts", "id"⟩, ⟨"posts", "parent"⟩⟩, ⟨"likes", ⟨"posts", "id"⟩, ⟨"likes", "post"⟩⟩,
        ⟨"posts", ⟨"posts", "id"⟩, ⟨"users", "best"⟩⟩]) ∧
    refused.build = .error (.unrelated "likes" "users") := by
  intro users posts likes included query refused built
  have compiled : query.build = .ok built := by decide +kernel
  have valid : ∀ node ∈ query.preorder, node.table.validate = .ok () := by decide +kernel
  have validToo : ∀ node ∈ refused.preorder, node.table.validate = .ok () := by decide +kernel
  have distinct : users.columnNames.Nodup ∧ posts.columnNames.Nodup := by decide
  obtain ⟨tokens, read, joins⟩ := (build_joins query valid).1 built compiled
  refine ⟨compiled, ⟨tokens, read, ?_⟩, ?_⟩
  · refine ((joins _).1 (.cons ?last (.cons ?thread (.cons ?likes (.cons ?posts .nil))))).symm
    case last => exact ⟨"last", _, rfl, (Join.choose_iff distinct.1).1 rfl⟩
    case thread => exact ⟨"thread", _, rfl, (Join.choose_iff distinct.2).1 rfl⟩
    case likes => exact ⟨"likes", _, rfl, (Join.choose_iff distinct.2).1 rfl⟩
    case posts => exact ⟨"posts", _, rfl, (Join.choose_iff distinct.1).1 rfl⟩
  · have apart : ¬ ∃ join, Join.Follows likes users "user" join := by
      rw [← Join.linked_iff (by decide)]
      decide
    have sound : ∀ other ∈ refused.positions.take 3, other.offences = [] := by decide +kernel
    exact ((build_joins refused validToo).2 "likes" "users").2 ⟨refused.positions.take 3, _, [], "user", _,
      rfl, fun other inside => Tree.Position.wellFormed_iff.2 (sound other inside), rfl, rfl,
      not_exists.1 apart, rfl, rfl⟩

end Query

end SqlCraft
