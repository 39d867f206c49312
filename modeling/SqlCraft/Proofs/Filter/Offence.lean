/-
**Which filters compile.**

Going through a filter from left to right and depth first, one passes the places where it may be wrong: a
field may be unknown, a list of comparisons or a group may be empty, a comparison that orders may be given
null, a member of a group may ask nothing. A filter compiles exactly if no place offends, and is refused
for the first one that does.

* `Filter.places` — the places of a filter, in order;
* `Filter.Place.offence?` — what is wrong at a place;
* `Filter.WellFormed` — nothing is wrong anywhere;
* `Filter.compile_judged` — compiling fails with the first offence;
* `Filter.compile_accepts` — which filters compile, and that each criterion becomes a clause of its own.
-/

import SqlCraft.Filter.Clause
import SqlCraft.Proofs.Compiled

namespace SqlCraft

open Sql (Operator Joiner ColumnName)
open List (Forall₂)

/-! ### The places of a filter -/

/-- Whether the operator orders values, and so has no meaning for null. -/
def Sql.Operator.orders : Operator → Bool
  | .equal | .not => false
  | .lt | .lte | .gt | .gte => true

/-- A place where a filter may be wrong. -/
inductive Filter.Place where
  /-- A field that is named. -/
  | field (name : String)
  /-- The comparisons of a field. -/
  | comparisons (name : String) (list : List (Operator × Value))
  /-- One of the comparisons of a field. -/
  | comparison (name : String) (operator : Operator) (value : Value)
  /-- A group. -/
  | group (joiner : Joiner) (members : List Filter)
  /-- One of the members of a group. -/
  | member (joiner : Joiner) (filter : Filter)

/-- The places of a condition on a field. -/
def Condition.places (name : String) (condition : Condition) : List Filter.Place :=
  .comparisons name condition.comparisons ::
    condition.comparisons.map fun (operator, value) => .comparison name operator value

mutual

/-- The places of a criterion. -/
def Criterion.places : Criterion → List Filter.Place
  | .field name condition => .field name :: condition.places name
  | .group joiner members => .group joiner members :: memberPlaces joiner members

/-- The places of criteria, one criterion after another. -/
def criteriaPlaces : List Criterion → List Filter.Place
  | [] => []
  | criterion :: rest => criterion.places ++ criteriaPlaces rest

/-- The places of the members of a group, one member after another. -/
def memberPlaces (joiner : Joiner) : List (List Criterion) → List Filter.Place
  | [] => []
  | member :: rest => .member joiner member :: criteriaPlaces member ++ memberPlaces joiner rest

end

namespace Filter

/-- The places of a filter, from left to right and depth first. -/
def places (filter : Filter) : List Place := criteriaPlaces filter

/-- The field that a place names. -/
def Place.field? : Place → Option String
  | .field name => some name
  | _ => none

/-- The fields that a filter names at any depth. -/
def fields (filter : Filter) : List String := filter.places.filterMap Place.field?

theorem mem_fields {filter : Filter} {name : String} :
    name ∈ filter.fields ↔ .field name ∈ filter.places := by
  simp only [fields, List.mem_filterMap]
  constructor
  · rintro ⟨place, inside, named⟩
    cases place <;> cases named
    exact inside
  · exact fun inside => ⟨_, inside, rfl⟩

/-- What is wrong at a place, if anything. -/
def Place.offences (table : Table) : Place → List CompileError
  | .field name => table.fieldOffences name
  | .comparisons name list =>
    if list.isEmpty then [.descriptor (.noOperator table.name name)] else []
  | .comparison name operator value =>
    if operator.orders && value.isNull then [.nullOrdering table.name name operator] else []
  | .group joiner members =>
    if members.isEmpty then [.descriptor (.emptyGroup joiner table.name)] else []
  | .member joiner filter =>
    if filter.isEmpty then [.descriptor (.emptyMember joiner table.name)] else []

/-- All that is wrong with a filter, in the order of its places. -/
def offences (table : Table) (filter : Filter) : List CompileError :=
  filter.places.flatMap (Place.offences table)

/-- Nothing is wrong with a filter on a table, at any depth. -/
structure WellFormed (table : Table) (filter : Filter) : Prop where
  /-- Every field is declared. -/
  declared : ∀ name, .field name ∈ filter.places → table.declares name
  /-- Every field is compared with something. -/
  compared : ∀ name list, .comparisons name list ∈ filter.places → list ≠ []
  /-- No null is used with an operator that orders. -/
  ordered : ∀ name operator value, .comparison name operator value ∈ filter.places →
    operator.orders → value ≠ .null
  /-- No group is empty. -/
  grouped : ∀ joiner members, .group joiner members ∈ filter.places → members ≠ []
  /-- No filter inside a group is empty. -/
  filled : ∀ joiner member, .member joiner member ∈ filter.places → member ≠ []

theorem wellFormed_iff {table : Table} {filter : Filter} :
    filter.WellFormed table ↔ filter.offences table = [] := by
  rw [offences, List.flatMap_eq_nil_iff]
  constructor
  · intro sound place inside
    cases place with
    | field name => exact Table.fieldOffences_eq_nil_iff.2 (sound.declared name inside)
    | comparisons name list => simp [Place.offences, sound.compared name list inside]
    | comparison name operator value =>
      have apart := sound.ordered name operator value inside
      simpa [Place.offences, Value.isNull_iff] using apart
    | group joiner members => simp [Place.offences, sound.grouped joiner members inside]
    | member joiner member => simp [Place.offences, sound.filled joiner member inside]
  · intro sound
    refine ⟨fun name inside => Table.fieldOffences_eq_nil_iff.1 (sound _ inside),
      fun name list inside => ?_, fun name operator value inside => ?_,
      fun joiner members inside => ?_, fun joiner member inside => ?_⟩
    all_goals simpa [Place.offences, Value.isNull_iff] using sound _ inside

end Filter

/-! ### Compiling -/

section

variable (table : Table)

/-- A comparison is refused if it orders null. -/
theorem Test.ofComparison_judged (name : String) (comparison : Operator × Value) :
    Judged (ofComparison ⟨table.name, name⟩ comparison)
      ((Filter.Place.comparison name comparison.1 comparison.2).offences table) := by
  obtain ⟨operator, value⟩ := comparison
  cases value with
  | null =>
    cases operator with
    | equal | not => exact .passed _ rfl
    | lt | lte | gt | gte => exact .refused _ [] rfl
  | _ => cases operator <;> exact .passed _ rfl

theorem Condition.compile_judged (name : String) (condition : Condition) :
    Judged (condition.compile ⟨table.name, name⟩)
      ((condition.places name).flatMap (Filter.Place.offences table)) := by
  rw [places, List.flatMap_cons, List.flatMap_map]
  exact .guard rfl fun _ => .map (.mapM _ fun comparison _ => Test.ofComparison_judged table name comparison) _

mutual

theorem Criterion.compile_judged : ∀ criterion : Criterion,
    Judged (criterion.compile table) (criterion.places.flatMap (Filter.Place.offences table))
  | .field name condition => by
    rw [Criterion.compile, Criterion.places, List.flatMap_cons]
    exact (table.require_judged name).bind fun _ _ => condition.compile_judged table name
  | .group joiner [] => .refused _ _ rfl
  | .group joiner (first :: rest) => by
    rw [Criterion.compile, Criterion.places, List.flatMap_cons]
    exact (compileMembers_judged joiner (first :: rest)).map _

theorem compileCriteria_judged : ∀ criteria : List Criterion,
    Judged (compileCriteria table criteria)
      ((criteriaPlaces criteria).flatMap (Filter.Place.offences table))
  | [] => .passed [] rfl
  | criterion :: rest => by
    rw [compileCriteria, criteriaPlaces, List.flatMap_append]
    exact criterion.compile_judged.bind fun clause _ => (compileCriteria_judged rest).map _

/-- A member without criteria is found by its having no clauses. -/
theorem compileMembers_judged (joiner : Joiner) : ∀ members : List (List Criterion),
    Judged (compileMembers table joiner members)
      ((memberPlaces joiner members).flatMap (Filter.Place.offences table))
  | [] => .passed [] rfl
  | [] :: rest => .refused _ _ rfl
  | (criterion :: others) :: rest => by
    rw [compileMembers, memberPlaces, List.cons_append, List.flatMap_cons, List.flatMap_append]
    refine (compileCriteria_judged (criterion :: others)).bind fun clauses compiled => ?_
    have some : clauses.isEmpty = false := by
      obtain ⟨clause, -, compiled⟩ := bind_eq_ok compiled
      obtain ⟨later, -, compiled⟩ := bind_eq_ok compiled
      cases compiled
      rfl
    rw [some]
    exact (compileMembers_judged joiner rest).map _

end

/-- **Compiling a filter fails with the first of its offences**, and succeeds if there are none. -/
theorem Filter.compile_judged (filter : Filter) :
    Judged (filter.compile table) (filter.offences table) :=
  compileCriteria_judged table filter

end

/-- The clauses of a filter are those of its criteria, each compiled as a filter of its own. -/
theorem compileCriteria_forall₂ {table : Table} {criteria : List Criterion} {clauses : List Clause}
    (compiled : compileCriteria table criteria = .ok clauses) :
    Forall₂ (fun criterion clause => compileCriteria table [criterion] = .ok [clause])
      criteria clauses := by
  induction criteria generalizing clauses with
  | nil =>
    cases compiled
    exact .nil
  | cons criterion rest ih =>
    rw [compileCriteria] at compiled
    obtain ⟨clause, here, compiled⟩ := bind_eq_ok compiled
    obtain ⟨others, later, compiled⟩ := bind_eq_ok compiled
    cases compiled
    refine .cons ?_ (ih later)
    rw [compileCriteria, here]
    rfl

/-- **Exactly the well-formed filters compile.** A filter compiles if every field that it names at any depth
is declared, no group, no member of a group and no list of comparisons is empty, and no null is used with
an operator that orders, and only then. Otherwise it is refused for the first offence from left to right,
depth first. It becomes one clause for each of its criteria, the one that the criterion would become
alone. -/
theorem Filter.compile_accepts (table : Table) (filter : Filter) :
    ((∃ clauses, filter.compile table = .ok clauses) ↔ filter.WellFormed table) ∧
    (∀ cause, filter.compile table = .error cause ↔ (filter.offences table).head? = some cause) ∧
    ∀ clauses, filter.compile table = .ok clauses →
      Forall₂ (fun criterion clause => Filter.compile table [criterion] = .ok [clause])
        filter clauses := by
  have judged := filter.compile_judged table
  refine ⟨?_, judged.error_iff, fun clauses compiled => compileCriteria_forall₂ compiled⟩
  rw [wellFormed_iff]
  exact judged.ok_iff

/-- An empty member deep inside a group comes before an unknown field in the next member. -/
theorem Filter.compile_accepts_nested :
    let table : Table := ⟨"songs", [{ name := "title", type := .varchar }, { name := "plays", type := .int }]⟩
    let refused : Filter := (Filter.empty.eq "title" "x").or
      [Filter.empty.and [Filter.empty.op "plays" .gt (3 : Int64), Filter.empty],
        Filter.empty.eq "genre" "jazz"]
    let accepted : Filter := (Filter.empty.isNotNull "title").or
      [Filter.empty.op "plays" .gt (3 : Int64), Filter.empty.isNull "plays"]
    let clauses : List Clause := [.column ⟨"songs", "title"⟩ [.isNotNull],
      .group .or [[.column ⟨"songs", "plays"⟩ [.compare .gt (.int 3)]],
        [.column ⟨"songs", "plays"⟩ [.isNull]]]]
    refused.offences table =
      [.descriptor (.emptyMember .and "songs"), .unknownField "songs" "genre"] ∧
    refused.compile table = .error (.descriptor (.emptyMember .and "songs")) ∧
    accepted.WellFormed table ∧ accepted.compile table = .ok clauses ∧
    Forall₂ (fun criterion clause => Filter.compile table [criterion] = .ok [clause])
      accepted clauses := by
  intro table refused accepted clauses
  have compiled : accepted.compile table = .ok clauses := rfl
  exact ⟨rfl, ((compile_accepts table refused).2.1 _).2 rfl,
    (compile_accepts table accepted).1.1 ⟨clauses, compiled⟩, compiled,
    (compile_accepts table accepted).2.2 clauses compiled⟩

end SqlCraft
