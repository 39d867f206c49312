/-
**Composite keys are the connected components of their columns.**

A column with a composite marker is linked to the columns that the marker names, whether these carry a
marker themselves or not. The groups of a kind are the components of these links, each with the columns
of it that carry a composite marker of the kind:

* `composite?`, `Names`, `Connected` — markers as links between columns, and what they connect;
* `KeyComponents` — groups that are the components, sorted inside and by their first columns;
* `Gathers` — entries gathered by root, step by step;
* `keyComponents` — so are the groups of a table whose columns have different names.
-/

import Mathlib.Data.List.Induction
import SqlCraft.Proofs.Table.Forest
import SqlCraft.Proofs.Table.Soundness
import SqlCraft.Table.KeyGroup

namespace SqlCraft.Table

variable (table : Table) (kind : KeyKind)

/-! ### Components -/

/-- The column at a position. -/
def columnAt (position : table.Position) : Column := table.columns.get position

/-- The columns that the composite marker of a column names, and the order it gives. -/
def composite? (position : table.Position) : Option (List String × Int32) :=
  match kind.marker? (table.columnAt position) with
  | some (.composite partners order) => some (partners, order)
  | _ => none

/-- The column carries a composite marker of the kind. -/
def DeclaresKey (position : table.Position) : Prop := (table.composite? kind position).isSome

/-- The composite marker of one column names the other. -/
def Names (first second : table.Position) : Prop :=
  ∃ marker ∈ table.composite? kind first, (table.columnAt second).name ∈ marker.1

/-- Composite markers connect two columns, over any columns and from either side. -/
def Connected : table.Position → table.Position → Prop := Relation.EqvGen (table.Names kind)

/-- The order that the composite marker of a column gives. -/
def keyOrder (position : table.Position) : Int32 :=
  ((table.composite? kind position).map Prod.snd).getD 0

/-- One column stands before the other in a key: by the order given, then by declaration. -/
def Precedes (first second : table.Position) : Prop :=
  table.keyOrder kind first < table.keyOrder kind second ∨
    table.keyOrder kind first = table.keyOrder kind second ∧ first < second

/-- Groups of columns are the components that hold a column with a composite marker. -/
structure KeyComponents (groups : List (List table.Position)) : Prop where
  nonempty : [] ∉ groups
  /-- A group holds the declaring columns that are connected to any of its members, and no others. -/
  component : ∀ group ∈ groups, ∀ member ∈ group, ∀ other,
    other ∈ group ↔ table.DeclaresKey kind other ∧ table.Connected kind member other
  covered : ∀ position, table.DeclaresKey kind position → position ∈ groups.flatten
  /-- No column is in two groups, or twice in one. -/
  once : groups.flatten.Nodup
  sorted : ∀ group ∈ groups, group.Pairwise (table.Precedes kind)
  /-- The first-declared column of a group stands before all columns of the groups behind it. -/
  ordered : groups.Pairwise fun earlier later => ∃ first ∈ earlier, ∀ member ∈ later, first < member

/-! ### Entries gathered by root -/

section Gathering

variable {table}

/-- An entry joins the group of its root, or makes up a group of its own behind the others. -/
theorem enter_cases (root : table.Position) (member : table.Member)
    (groups : List (table.Position × List table.Member)) :
    (∃ before members after, groups = before ++ (root, members) :: after ∧
      enter root member groups = before ++ (root, members ++ [member]) :: after) ∨
    root ∉ groups.map Prod.fst ∧ enter root member groups = groups ++ [(root, [member])] := by
  induction groups with
  | nil => exact .inr ⟨List.not_mem_nil, rfl⟩
  | cons group rest ih =>
    obtain ⟨other, members⟩ := group
    by_cases same : other = root
    · subst same
      exact .inl ⟨[], members, rest, rfl, by rw [enter, if_pos rfl]; rfl⟩
    · rw [enter, if_neg same]
      obtain ⟨before, held, after, rfl, entered⟩ | ⟨missing, entered⟩ := ih
      · exact .inl ⟨(other, members) :: before, held, after, rfl, by rw [entered]; rfl⟩
      · refine .inr ⟨?_, by rw [entered]; rfl⟩
        rw [List.map_cons, List.mem_cons, not_or]
        exact ⟨Ne.symm same, missing⟩

/-- Entries with their roots are gathered in groups: one for each root, with the members of that root in
order, and in the order of first members. -/
structure Gathers (entries : List (table.Position × table.Member))
    (groups : List (table.Position × List table.Member)) : Prop where
  distinct : (groups.map Prod.fst).Nodup
  members : ∀ group ∈ groups, group.2 = (entries.filter fun entry => entry.1 = group.1).map Prod.snd
  nonempty : ∀ group ∈ groups, group.2 ≠ []
  covered : ∀ entry ∈ entries, entry.1 ∈ groups.map Prod.fst
  ordered : groups.Pairwise fun earlier later =>
    ∃ first ∈ earlier.2, ∀ member ∈ later.2, first.2 < member.2

section Step

variable {entries : List (table.Position × table.Member)}
  {groups : List (table.Position × List table.Member)} {root : table.Position} {member : table.Member}

/-- A group of another root has the members that it had. -/
theorem Gathers.members_of_ne (gathers : Gathers entries groups) {group : table.Position × List table.Member}
    (inside : group ∈ groups) (other : root ≠ group.1) : group.2 =
      ((entries ++ [(root, member)]).filter fun entry => entry.1 = group.1).map Prod.snd := by
  simp [List.filter_append, other, ← gathers.members group inside]

theorem Gathers.earlier (gathers : Gathers entries groups)
    (behind : ∀ entry ∈ entries, entry.2.2 < member.2) :
    ∀ group ∈ groups, ∀ held ∈ group.2, held.2 < member.2 := by
  intro group inside held within
  rw [gathers.members group inside] at within
  obtain ⟨entry, chosen, rfl⟩ := List.mem_map.1 within
  exact behind entry (List.mem_of_mem_filter chosen)

/-- A member that is declared behind all others leaves the groups in order. -/
theorem Gathers.ordered_join {before after : List (table.Position × List table.Member)}
    {held : List table.Member} (gathers : Gathers entries (before ++ (root, held) :: after))
    (behind : ∀ entry ∈ entries, entry.2.2 < member.2) :
    (before ++ (root, held ++ [member]) :: after).Pairwise fun earlier later =>
      ∃ first ∈ earlier.2, ∀ member ∈ later.2, first.2 < member.2 := by
  have ordered := gathers.ordered
  rw [List.pairwise_append, List.pairwise_cons] at ordered ⊢
  obtain ⟨start, ⟨mine, rest⟩, across⟩ := ordered
  refine ⟨start, ⟨fun group inside => ?_, rest⟩, fun group inside later among => ?_⟩
  · obtain ⟨first, held, less⟩ := mine group inside
    exact ⟨first, List.mem_append_left _ held, less⟩
  · rcases List.mem_cons.1 among with rfl | last
    · obtain ⟨first, held, less⟩ := across group inside _ List.mem_cons_self
      refine ⟨first, held, List.forall_mem_append.2 ⟨less, List.forall_mem_singleton.2 ?_⟩⟩
      exact gathers.earlier behind group (List.mem_append_left _ inside) first held
    · exact across group inside later (List.mem_cons_of_mem _ last)

/-- An entry of a root that is known. -/
theorem Gathers.join {before after : List (table.Position × List table.Member)}
    {held : List table.Member} (gathers : Gathers entries (before ++ (root, held) :: after))
    (behind : ∀ entry ∈ entries, entry.2.2 < member.2) :
    Gathers (entries ++ [(root, member)]) (before ++ (root, held ++ [member]) :: after) := by
  have keys : (before ++ (root, held ++ [member]) :: after).map Prod.fst =
      (before ++ (root, held) :: after).map Prod.fst := by simp
  have here : (root, held) ∈ before ++ (root, held) :: after :=
    List.mem_append_right _ List.mem_cons_self
  have distinct := gathers.distinct
  rw [List.map_append, List.map_cons, List.nodup_middle, List.nodup_cons, List.mem_append,
    not_or] at distinct
  refine ⟨keys ▸ gathers.distinct, fun group inside => ?_, fun group inside => ?_,
    fun entry inside => ?_, gathers.ordered_join behind⟩
  · rcases List.mem_append.1 inside with first | rest
    · refine gathers.members_of_ne (List.mem_append_left _ first) fun same => distinct.1.1 ?_
      exact List.mem_map.2 ⟨group, first, same.symm⟩
    · rcases List.mem_cons.1 rest with rfl | last
      · have mine := gathers.members (root, held) here
        simp [List.filter_append, ← mine]
      · refine gathers.members_of_ne (List.mem_append_right _ (List.mem_cons_of_mem _ last))
          fun same => distinct.1.2 ?_
        exact List.mem_map.2 ⟨group, last, same.symm⟩
  · rcases List.mem_append.1 inside with first | rest
    · exact gathers.nonempty group (List.mem_append_left _ first)
    · rcases List.mem_cons.1 rest with rfl | last
      · exact List.append_ne_nil_of_right_ne_nil _ (List.cons_ne_nil _ _)
      · exact gathers.nonempty group (List.mem_append_right _ (List.mem_cons_of_mem _ last))
  · rw [keys]
    rcases List.mem_append.1 inside with old | new
    · exact gathers.covered entry old
    · rw [List.mem_singleton.1 new]
      exact List.mem_map_of_mem here

/-- An entry of a root that is new. -/
theorem Gathers.add (gathers : Gathers entries groups) (missing : root ∉ groups.map Prod.fst)
    (behind : ∀ entry ∈ entries, entry.2.2 < member.2) :
    Gathers (entries ++ [(root, member)]) (groups ++ [(root, [member])]) := by
  refine ⟨?_, fun group inside => ?_, fun group inside => ?_, fun entry inside => ?_, ?_⟩
  · rw [List.map_append, List.map_singleton, ← List.concat_eq_append]
    exact gathers.distinct.concat missing
  · rcases List.mem_append.1 inside with old | new
    · refine gathers.members_of_ne old fun same => missing ?_
      exact List.mem_map.2 ⟨group, old, same.symm⟩
    · have fresh : (entries.filter fun entry => entry.1 = root) = [] := by
        refine List.filter_eq_nil_iff.2 fun entry within same => missing ?_
        exact decide_eq_true_iff.1 same ▸ gathers.covered entry within
      rw [List.mem_singleton.1 new]
      simp [List.filter_append, fresh]
  · rcases List.mem_append.1 inside with old | new
    · exact gathers.nonempty group old
    · rw [List.mem_singleton.1 new]
      exact List.cons_ne_nil _ _
  · rw [List.map_append, List.mem_append]
    rcases List.mem_append.1 inside with old | new
    · exact .inl (gathers.covered entry old)
    · rw [List.mem_singleton.1 new]
      exact .inr List.mem_cons_self
  · rw [List.pairwise_append]
    refine ⟨gathers.ordered, List.pairwise_singleton _ _, fun group inside later new => ?_⟩
    obtain ⟨first, mine⟩ := List.exists_mem_of_ne_nil _ (gathers.nonempty group inside)
    rw [List.mem_singleton.1 new]
    exact ⟨first, mine, List.forall_mem_singleton.2 (gathers.earlier behind group inside first mine)⟩

/-- **One more entry, declared behind the others, is gathered as well.** -/
theorem Gathers.enter (gathers : Gathers entries groups)
    (behind : ∀ entry ∈ entries, entry.2.2 < member.2) :
    Gathers (entries ++ [(root, member)]) (Table.enter root member groups) := by
  obtain ⟨before, held, after, rfl, entered⟩ | ⟨missing, entered⟩ := enter_cases root member groups
  · exact entered ▸ gathers.join behind
  · exact entered ▸ gathers.add missing behind

end Step

/-- Entries in the order of declaration are gathered one after another. -/
theorem gathers_foldl {entries : List (table.Position × table.Member)}
    (ascending : entries.Pairwise fun earlier later => earlier.2.2 < later.2.2) :
    Gathers entries (entries.foldl (fun groups entry => Table.enter entry.1 entry.2 groups) []) := by
  induction entries using List.reverseRecOn with
  | nil => exact ⟨.nil, by simp, by simp, by simp, .nil⟩
  | append_singleton entries last ih =>
    obtain ⟨start, -, across⟩ := List.pairwise_append.1 ascending
    rw [List.foldl_concat]
    exact (ih start).enter fun entry inside => across entry inside last List.mem_cons_self

end Gathering

/-! ### The groups of a table -/

variable {table} {kind}

theorem composites_eq : table.composites kind =
    (List.finRange table.columns.length).filterMap fun position =>
      (table.composite? kind position).map fun marker => (position, marker.1, marker.2) := by
  refine List.filterMap_congr fun position _ => ?_
  rw [composite?, columnAt, List.get_eq_getElem]
  split <;> simp_all

theorem mem_composites {position : table.Position} {partners : List String} {order : Int32} :
    (position, partners, order) ∈ table.composites kind ↔
      table.composite? kind position = some (partners, order) := by
  rw [composites_eq, List.mem_filterMap]
  simp

/-- Columns of different names stand where their names say. -/
theorem position_inj (distinct : table.columnNames.Nodup) {first second : table.Position}
    (same : (table.columnAt first).name = (table.columnAt second).name) : first = second := by
  have names : table.columnNames[first.val]? = table.columnNames[second.val]? := by
    simpa [columnNames, columnAt] using same
  have declared : first.val < table.columnNames.length := by
    rw [columnNames, List.length_map]
    exact first.isLt
  exact Fin.ext ((List.getElem?_inj declared distinct).1 names)

/-- Columns are linked if the composite marker of one names the other. -/
theorem mem_links (distinct : table.columnNames.Nodup) {first second : table.Position} :
    (first, second) ∈ table.links kind ↔ table.Names kind first second := by
  have found (partner : String) :
      (table.columns.findFinIdx? fun column => column.name == partner) = some second ↔
        (table.columnAt second).name = partner := by
    rw [List.findFinIdx?_eq_some_iff, beq_iff_eq]
    refine ⟨And.left, fun same => ⟨same, fun other before equal => ?_⟩⟩
    have places := position_inj distinct ((beq_iff_eq.1 equal).trans same.symm)
    exact absurd before (places ▸ Fin.lt_irrefl _)
  simp only [links, List.mem_flatMap, List.mem_filterMap, Option.map_eq_some_iff, Names,
    Option.mem_def]
  constructor
  · rintro ⟨⟨position, partners, order⟩, declared, partner, named, other, place, same⟩
    obtain ⟨rfl, rfl⟩ := Prod.mk.inj same
    exact ⟨(partners, order), mem_composites.1 declared, (found partner).1 place ▸ named⟩
  · rintro ⟨⟨partners, order⟩, declared, named⟩
    exact ⟨(first, partners, order), mem_composites.2 declared, _, named, second, (found _).2 rfl, rfl⟩

/-- The root of a column among those that the composite markers of a kind link. -/
def keyRoot (table : Table) (kind : KeyKind) (position : table.Position) : table.Position :=
  ((Forest.discrete table.columns.length).unionAll (table.links kind)).root position

/-- **Columns have one root exactly if composite markers connect them.** -/
theorem keyRoot_eq_iff (distinct : table.columnNames.Nodup) {first second : table.Position} :
    table.keyRoot kind first = table.keyRoot kind second ↔ table.Connected kind first second := by
  have links : (fun first second => (first, second) ∈ table.links kind) = table.Names kind :=
    funext fun first => funext fun second => propext (mem_links distinct)
  rw [keyRoot, keyRoot, Forest.root_unionAll_eq_iff, links, Connected]

/-- The columns with a composite marker, each with its root and as a member. -/
def keyEntries (table : Table) (kind : KeyKind) : List (table.Position × table.Member) :=
  (table.composites kind).map fun (position, _, order) =>
    (table.keyRoot kind position, order, position)

theorem keyEntries_ascending :
    (table.keyEntries kind).Pairwise fun earlier later => earlier.2.2 < later.2.2 := by
  rw [keyEntries, composites_eq, List.pairwise_map]
  refine (List.pairwise_lt_finRange _).filterMap _ fun first second less marked one other two => ?_
  obtain ⟨_, -, rfl⟩ := Option.map_eq_some_iff.1 one
  obtain ⟨_, -, rfl⟩ := Option.map_eq_some_iff.1 two
  exact less

theorem mem_keyEntries {root : table.Position} {member : table.Member} :
    (root, member) ∈ table.keyEntries kind ↔ root = table.keyRoot kind member.2 ∧
      ∃ partners, table.composite? kind member.2 = some (partners, member.1) := by
  rw [keyEntries, List.mem_map]
  constructor
  · rintro ⟨⟨position, partners, order⟩, declared, same⟩
    obtain ⟨rfl, rfl⟩ := Prod.mk.inj same
    exact ⟨rfl, partners, mem_composites.1 declared⟩
  · rintro ⟨rfl, partners, declared⟩
    exact ⟨(member.2, partners, member.1), mem_composites.2 declared, rfl⟩

/-! ### Members in order -/

theorem keyOrder_eq {position : table.Position} {partners : List String} {order : Int32}
    (declared : table.composite? kind position = some (partners, order)) :
    table.keyOrder kind position = order := by
  rw [keyOrder, declared]
  rfl

theorem Member.le_iff {left right : table.Member} : Member.le table left right ↔
    left.1 < right.1 ∨ left.1 = right.1 ∧ left.2 ≤ right.2 := by
  rw [Member.le, Bool.or_eq_true, Bool.and_eq_true, beq_iff_eq, decide_eq_true_iff, decide_eq_true_iff]

theorem Member.le_trans (first second third : table.Member) (left : Member.le table first second)
    (right : Member.le table second third) : Member.le table first third := by
  rw [le_iff] at left right ⊢
  rcases left with less | ⟨same, before⟩
  · rcases right with later | ⟨equal, -⟩
    · exact .inl (Int32.lt_trans less later)
    · exact .inl (equal ▸ less)
  · rcases right with later | ⟨equal, after⟩
    · exact .inl (same ▸ later)
    · exact .inr ⟨same.trans equal, Nat.le_trans before after⟩

theorem Member.le_total (left right : table.Member) :
    (Member.le table left right || Member.le table right left) = true := by
  rw [Bool.or_eq_true, le_iff, le_iff]
  by_cases same : left.1 = right.1
  · rcases Nat.le_total left.2 right.2 with before | after
    · exact .inl (.inr ⟨same, before⟩)
    · exact .inr (.inr ⟨same.symm, after⟩)
  · rcases Int32.le_total left.1 right.1 with before | after
    · exact .inl (.inl (Int32.lt_of_le_of_ne before same))
    · exact .inr (.inl (Int32.lt_of_le_of_ne after (Ne.symm same)))

/-- The columns of a group in the order of the key. -/
def Member.sorted (members : List table.Member) : List table.Position :=
  (members.mergeSort (Member.le table)).map Prod.snd

theorem Member.mem_sorted {members : List table.Member} {position : table.Position} :
    position ∈ Member.sorted members ↔ ∃ member ∈ members, member.2 = position := by
  simp [sorted, List.mem_mergeSort]

/-- Members of different columns, sorted, stand before each other as their markers say. -/
theorem Member.pairwise_sorted {members : List table.Member} (distinct : (members.map Prod.snd).Nodup)
    (declared : ∀ member ∈ members, table.keyOrder kind member.2 = member.1) :
    (Member.sorted members).Pairwise (table.Precedes kind) := by
  have perm := members.mergeSort_perm (Member.le table)
  have apart : ((members.mergeSort (Member.le table)).map Prod.snd).Nodup :=
    ((perm.map Prod.snd).nodup_iff).2 distinct
  have ascending := List.pairwise_mergeSort Member.le_trans Member.le_total members
  rw [sorted, List.pairwise_map]
  refine (ascending.and (List.pairwise_map.1 apart)).imp_of_mem ?_
  rintro left right inside behind ⟨before, differ⟩
  rw [Precedes, declared left (perm.mem_iff.1 inside), declared right (perm.mem_iff.1 behind)]
  exact (le_iff.1 before).imp id fun ⟨same, less⟩ => ⟨same, lt_of_le_of_ne less differ⟩

/-- The groups of a table: what was gathered by root, each group in order. -/
theorem compositeGroups_eq (table : Table) (kind : KeyKind) :
    ∃ groups, Gathers (table.keyEntries kind) groups ∧
      table.compositeGroups kind = groups.map fun group => Member.sorted group.2 := by
  refine ⟨_, gathers_foldl keyEntries_ascending, ?_⟩
  rw [keyEntries, List.foldl_map]
  rfl

/-- A column is a member of a gathered group if it carries a marker and has the root of the group. -/
theorem Gathers.mem_sorted {groups : List (table.Position × List table.Member)}
    (gathers : Gathers (table.keyEntries kind) groups) {group : table.Position × List table.Member}
    (inside : group ∈ groups) {position : table.Position} : position ∈ Member.sorted group.2 ↔
      table.DeclaresKey kind position ∧ table.keyRoot kind position = group.1 := by
  rw [Member.mem_sorted, gathers.members group inside]
  constructor
  · rintro ⟨member, within, rfl⟩
    obtain ⟨⟨root, member⟩, chosen, rfl⟩ := List.mem_map.1 within
    obtain ⟨entry, mine⟩ := List.mem_filter.1 chosen
    obtain ⟨same, partners, declared⟩ := mem_keyEntries.1 entry
    exact ⟨by rw [DeclaresKey, declared]; rfl, same.symm.trans (decide_eq_true_iff.1 mine)⟩
  · rintro ⟨declares, mine⟩
    obtain ⟨⟨partners, order⟩, declared⟩ := Option.isSome_iff_exists.1 declares
    have entry : (group.1, (order, position)) ∈ table.keyEntries kind :=
      mem_keyEntries.2 ⟨mine.symm, partners, declared⟩
    refine ⟨(order, position), List.mem_map.2 ⟨_, List.mem_filter.2 ⟨entry, ?_⟩, rfl⟩, rfl⟩
    exact decide_eq_true_iff.2 rfl

/-- The members of a gathered group are different columns, with the orders that their markers give. -/
theorem Gathers.members_keyEntries {groups : List (table.Position × List table.Member)}
    (gathers : Gathers (table.keyEntries kind) groups) {group : table.Position × List table.Member}
    (inside : group ∈ groups) : (group.2.map Prod.snd).Nodup ∧
      ∀ member ∈ group.2, table.keyOrder kind member.2 = member.1 := by
  rw [gathers.members group inside]
  refine ⟨?_, fun member within => ?_⟩
  · have ascending : ((table.keyEntries kind).filter fun entry => entry.1 = group.1).Pairwise
        fun earlier later => earlier.2.2 < later.2.2 := keyEntries_ascending.filter _
    rw [List.map_map, List.Nodup, List.pairwise_map]
    exact ascending.imp ne_of_lt
  · obtain ⟨⟨root, member⟩, chosen, rfl⟩ := List.mem_map.1 within
    obtain ⟨-, partners, declared⟩ := mem_keyEntries.1 (List.mem_of_mem_filter chosen)
    exact keyOrder_eq declared

/-- **The groups of a table are the components of its composite markers.** -/
theorem keyComponents (distinct : table.columnNames.Nodup) :
    table.KeyComponents kind (table.compositeGroups kind) := by
  obtain ⟨groups, gathers, same⟩ := table.compositeGroups_eq kind
  rw [same]
  refine ⟨fun empty => ?_, fun list among member held other => ?_, fun position declares => ?_, ?_,
    fun list among => ?_, ?_⟩
  · obtain ⟨group, inside, none⟩ := List.mem_map.1 empty
    obtain ⟨member, held⟩ := List.exists_mem_of_ne_nil _ (gathers.nonempty group inside)
    exact List.not_mem_nil (none ▸ Member.mem_sorted.2 ⟨member, held, rfl⟩)
  · obtain ⟨group, inside, rfl⟩ := List.mem_map.1 among
    have mine := ((gathers.mem_sorted inside).1 held).2
    rw [gathers.mem_sorted inside, ← keyRoot_eq_iff distinct, mine, eq_comm]
  · obtain ⟨⟨partners, order⟩, declared⟩ := Option.isSome_iff_exists.1 declares
    have entry : (table.keyRoot kind position, (order, position)) ∈ table.keyEntries kind :=
      mem_keyEntries.2 ⟨rfl, partners, declared⟩
    obtain ⟨group, inside, root⟩ := List.mem_map.1 (gathers.covered _ entry)
    refine List.mem_flatten.2 ⟨_, List.mem_map_of_mem inside, ?_⟩
    exact (gathers.mem_sorted inside).2 ⟨declares, root.symm⟩
  · rw [List.nodup_flatten]
    refine ⟨fun list among => ?_, ?_⟩
    · obtain ⟨group, inside, rfl⟩ := List.mem_map.1 among
      have perm := (group.2.mergeSort_perm (Member.le table)).map Prod.snd
      exact perm.nodup_iff.2 (gathers.members_keyEntries inside).1
    · -- a column in two groups would give both groups its root
      rw [List.pairwise_map]
      refine (List.pairwise_map.1 gathers.distinct).imp_of_mem fun here there differ => ?_
      intro position left right
      exact differ (((gathers.mem_sorted here).1 left).2.symm.trans ((gathers.mem_sorted there).1 right).2)
  · obtain ⟨group, inside, rfl⟩ := List.mem_map.1 among
    obtain ⟨apart, orders⟩ := gathers.members_keyEntries inside
    exact Member.pairwise_sorted apart orders
  · rw [List.pairwise_map]
    refine gathers.ordered.imp fun ⟨first, held, less⟩ => ?_
    refine ⟨first.2, Member.mem_sorted.2 ⟨first, held, rfl⟩, fun position later => ?_⟩
    obtain ⟨member, within, rfl⟩ := Member.mem_sorted.1 later
    exact less member within

end SqlCraft.Table
