/-
**When the rows of a table need separate statements.**

In a plan, a table is marked if two data rows that are asked of it one directly after the other name
different fields, or the same in another order. Which operations and nodes they come from does not matter,
nor what is asked of other tables in between; between rows of which one is not directly behind the other,
there is something asked of the table that is not a row.

The mark can be kept while the nodes are worked off. All that has to be remembered of a table is the mark
so far and the fields of the last row, forgotten when something else is asked. No fields stand for no row,
since no row without fields is compiled.

* `Uneven` — two requests that follow each other are rows with different fields;
* `Write.needSeparate_iff` — the writes of requests tell whether these are uneven;
* `FieldWatch.Watches.step` — one more request of a table;
* `watchAll_watches` — a whole list of requests, of any tables;
* `Mutation.compile_separates` — the marks of a plan.
-/

import Mathlib.Data.List.Chain
import Mathlib.Data.List.Induction
import Mathlib.Logic.Function.Basic
import SqlCraft.Proofs.Mutation.Request

namespace SqlCraft

open List (Forall₂)

/-! ### Rows that follow each other -/

/-- Both requests are data rows, and they differ in their fields or in the order of these. -/
inductive Request.FieldsDiffer : Request → Request → Prop
  | rows {table other : Table} {kind next : RowWrite} {row behind : Row}
    (apart : row.fields ≠ behind.fields) :
    FieldsDiffer ⟨table, .row kind row⟩ ⟨other, .row next behind⟩

/-- Somewhere a data row follows directly behind one with other fields. -/
def Uneven (requests : List Request) : Prop :=
  ∃ before first second after, requests = before ++ first :: second :: after ∧
    first.FieldsDiffer second

theorem not_uneven_iff {requests : List Request} :
    ¬ Uneven requests ↔ requests.IsChain fun first second => ¬ first.FieldsDiffer second := by
  rw [List.isChain_iff_forall_rel_of_append_cons_cons]
  constructor
  · exact fun even first second before after same differ =>
      even ⟨before, first, second, after, same, differ⟩
  · exact fun even ⟨before, first, second, after, same, differ⟩ => even same differ

/-- One more request makes a list uneven if it differs from the last one. -/
theorem uneven_append_singleton {requests : List Request} {request : Request} :
    Uneven (requests ++ [request]) ↔
      Uneven requests ∨ ∃ last ∈ requests.getLast?, last.FieldsDiffer request := by
  rw [← not_iff_not, not_or, not_uneven_iff, not_uneven_iff, List.isChain_append]
  simp

/-! ### The writes of requests -/

namespace Write

theorem fieldsDiffer_iff {first second : Request} {write next : Write} (made : first.Makes write)
    (behind : second.Makes next) : fieldsDiffer write next ↔ first.FieldsDiffer second := by
  have rows {table other : Table} {kind more : RowWrite} {row further : Row} :
      fieldsDiffer (.row kind (.ofRow table row)) (.row more (.ofRow other further)) ↔
        Request.FieldsDiffer ⟨table, .row kind row⟩ ⟨other, .row more further⟩ := by
    rw [fieldsDiffer, bne_iff_ne]
    exact ⟨.rows, fun ⟨apart⟩ => apart⟩
  cases made with
  | insertRow | updateRow | deleteRow =>
    cases behind with
    | insertRow | updateRow | deleteRow => exact rows
    | setUpdate | setDelete | setInsert => exact ⟨Bool.noConfusion, fun differ => by cases differ⟩
  | setUpdate | setDelete | setInsert => exact ⟨Bool.noConfusion, fun differ => by cases differ⟩

/-- **Writes need separate statements if their requests are uneven.** -/
theorem needSeparate_iff {requests : List Request} {writes : List Write}
    (made : Forall₂ Request.Makes requests writes) : needSeparate writes ↔ Uneven requests := by
  rw [← not_iff_not, not_uneven_iff]
  induction made with
  | nil => exact ⟨fun _ => .nil, fun _ => Bool.noConfusion⟩
  | @cons first write requests writes here later ih =>
    cases later with
    | nil => exact ⟨fun _ => .singleton _, fun _ => Bool.noConfusion⟩
    | cons behind =>
      rw [needSeparate, Bool.or_eq_true, not_or, ih, fieldsDiffer_iff here behind,
        List.isChain_cons_cons]

end Write

/-! ### Keeping the mark -/

/-- What is remembered of the requests to a table. -/
structure FieldWatch where
  /-- The fields of the last request, none if it is not a data row. -/
  last : List String
  /-- Whether a data row followed directly behind one with other fields. -/
  separate : Bool

/-- Nothing was asked yet. -/
def FieldWatch.empty : FieldWatch := ⟨[], false⟩

/-- What is remembered with one more request. -/
def FieldWatch.step (watch : FieldWatch) (request : Request) : FieldWatch :=
  match request.task with
  | .row _ row => ⟨row.fields, watch.separate || (!watch.last.isEmpty && watch.last != row.fields)⟩
  | _ => ⟨[], watch.separate⟩

/-- What is remembered of each table when requests to any tables are worked off. -/
def watchAll (requests : List Request) : String → FieldWatch :=
  requests.foldl (fun watches request => Function.update watches request.table.name
    ((watches request.table.name).step request)) fun _ => .empty

/-- The fields that a request names as a data row. -/
def Request.rowFields (request : Request) : List String :=
  match request.task with
  | .row _ row => row.fields
  | _ => []

/-- If the request is a data row, this is not empty. -/
def Request.Filled (request : Request) : Prop :=
  ∀ kind row, request.task = .row kind row → row.fields ≠ []

/-- What is remembered of requests is right. -/
structure FieldWatch.Watches (watch : FieldWatch) (requests : List Request) : Prop where
  last : watch.last = (requests.getLast?.map Request.rowFields).getD []
  separate : watch.separate ↔ Uneven requests

theorem FieldWatch.empty_watches : FieldWatch.empty.Watches [] where
  last := rfl
  separate := ⟨Bool.noConfusion, fun ⟨before, _, _, _, same, _⟩ => by simp at same⟩

/-- A request differs in its fields from a data row with the given ones. -/
theorem Request.fieldsDiffer_row_iff {last : Request} (filled : last.Filled) (table : Table)
    (kind : RowWrite) (row : Row) : last.FieldsDiffer ⟨table, .row kind row⟩ ↔
      last.rowFields ≠ [] ∧ last.rowFields ≠ row.fields := by
  obtain ⟨own, task⟩ := last
  cases task with
  | row first before =>
    exact ⟨fun ⟨apart⟩ => ⟨filled first before rfl, apart⟩, fun ⟨_, apart⟩ => .rows apart⟩
  | setUpdate | setDelete | setInsert =>
    constructor
    · rintro ⟨⟩
    · exact fun both => absurd rfl both.1

/-- **One more request is watched rightly.** -/
theorem FieldWatch.Watches.step {watch : FieldWatch} {requests : List Request}
    (watches : watch.Watches requests) (filled : ∀ request ∈ requests, request.Filled)
    (request : Request) : (watch.step request).Watches (requests ++ [request]) := by
  have ends : (requests ++ [request]).getLast? = some request := List.getLast?_concat
  obtain ⟨table, task⟩ := request
  cases task with
  | row kind row =>
    refine ⟨by rw [ends]; rfl, ?_⟩
    have behind : (!watch.last.isEmpty && watch.last != row.fields) = true ↔
        ∃ last ∈ requests.getLast?, last.FieldsDiffer ⟨table, .row kind row⟩ := by
      rw [watches.last]
      cases found : requests.getLast? with
      | none => simp
      | some last =>
        have own := Request.fieldsDiffer_row_iff (filled last (List.mem_of_getLast? found)) table kind row
        simp [own]
    rw [uneven_append_singleton, ← watches.separate, ← behind]
    exact Bool.or_eq_true _ _ ▸ Iff.rfl
  | setUpdate | setDelete | setInsert =>
    refine ⟨by rw [ends]; rfl, ?_⟩
    rw [uneven_append_singleton, or_iff_left]
    · exact watches.separate
    · rintro ⟨_, _, ⟨⟩⟩

/-- **Each table is watched rightly**, whatever is asked of other tables in between. -/
theorem watchAll_watches {requests : List Request} (filled : ∀ request ∈ requests, request.Filled)
    (table : String) :
    (watchAll requests table).Watches (requests.filter fun request => request.table.name == table) := by
  induction requests using List.reverseRecOn with
  | nil => exact FieldWatch.empty_watches
  | append_singleton requests request ih =>
    have before := ih fun earlier inside => filled earlier (List.mem_append_left _ inside)
    have step : watchAll (requests ++ [request]) = Function.update (watchAll requests)
        request.table.name ((watchAll requests request.table.name).step request) := by
      rw [watchAll, List.foldl_append]
      rfl
    rw [step, List.filter_append]
    by_cases own : request.table.name = table
    · subst own
      rw [Function.update_self, List.filter_cons_of_pos (by simp), List.filter_nil]
      exact before.step (fun earlier inside =>
        filled earlier (List.mem_append_left _ (List.mem_of_mem_filter inside))) request
    · rw [Function.update_of_ne (Ne.symm own), List.filter_cons_of_neg (by simpa using own),
        List.filter_nil, List.append_nil]
      exact before

/-! ### The marks of a plan -/

namespace MutationNode

/-- No row without fields is compiled. -/
theorem fields_ne_nil_of_rowWrite {table : Table} {kind : RowWrite} {row : Row} {write : Write}
    (compiled : rowWrite table kind row = .ok write) : row.fields ≠ [] := by
  intro none
  rw [rowWrite, if_pos (Row.isEmpty_iff.2 none)] at compiled
  cases compiled

theorem filled_of_writes {node : MutationNode} {writes : List Write}
    (compiled : node.writes = .ok writes) : ∀ request ∈ node.requests, request.Filled := by
  obtain ⟨table, op⟩ := node
  intro request asked kind row same
  obtain ⟨task, inside, rfl⟩ := List.mem_map.1 asked
  cases same
  cases op with
  | rows _ rows =>
    obtain ⟨_, among, equal⟩ := List.mem_map.1 inside
    cases equal
    obtain ⟨write, -, made⟩ := exists_of_forall₂ (mapM_eq_ok compiled).flip among
    exact fields_ne_nil_of_rowWrite made
  | setUpdate | setDelete | setInsert => cases List.mem_singleton.1 inside

end MutationNode

namespace Mutation

theorem filled_of_visitedWrites {mutation : Mutation} {visited : List (String × List Write)}
    (compiled : mutation.visitedWrites = .ok visited) :
    ∀ request ∈ mutation.requests, request.Filled := by
  intro request asked
  obtain ⟨node, inside, own⟩ := List.mem_flatMap.1 asked
  obtain ⟨entry, -, made⟩ := exists_of_forall₂ (mapM_eq_ok compiled).flip inside
  obtain ⟨writes, ran, -⟩ := map_eq_ok made
  exact MutationNode.filled_of_writes ran request own

/-- **A table of a plan is marked exactly if its rows need separate statements**: among what is asked of the
table, in the order of the nodes, two data rows with different fields follow each other directly. The mark
is what one has in mind after all requests if, of each table, the mark so far and the fields of the last
row are remembered. -/
theorem compile_separates {mutation : Mutation} {batched : Bool} {plan : Plan}
    (compiled : mutation.compile batched = .ok plan) : ∀ entry ∈ plan.tables,
      (entry.needsSeparate ↔ Uneven (mutation.requestsTo entry.table)) ∧
      entry.needsSeparate = (watchAll mutation.requests entry.table).separate := by
  intro entry inside
  obtain ⟨visited, ran, -⟩ := map_eq_ok compiled
  obtain ⟨writes, same, made⟩ := (compile_requests compiled).2.2 entry inside
  have marked : entry.needsSeparate ↔ Uneven (mutation.requestsTo entry.table) := by
    rw [same]
    exact Write.needSeparate_iff (made.imp fun _ _ both => both.2)
  have watched := watchAll_watches (filled_of_visitedWrites ran) entry.table
  exact ⟨marked, Bool.eq_iff_iff.2 (marked.trans watched.separate.symm)⟩

/-- The rows of songs, of which one is asked for below another table and one to be deleted, name the same
fields in two orders; what is asked of plays has something between its rows. -/
theorem compile_separates_branches :
    let songs : Table := ⟨"songs", [{ name := "album", type := .int, primaryKey := true },
      { name := "track", type := .int, primaryKey := true }]⟩
    let plays : Table := ⟨"plays", [{ name := "song", type := .int }, { name := "at", type := .int }]⟩
    let mutation : Mutation := .node
      ⟨songs, .rows .insert [{ entries := [("album", .int 1), ("track", .int 2)] }]⟩
      [("plays", .node ⟨plays, .rows .insert [{ entries := [("song", .int 7)] }]⟩
        [("songs", Mutation.ofTable songs
            (.rows .delete [{ entries := [("track", .int 3), ("album", .int 1)] }])),
          ("none", Mutation.ofTable plays (.setDelete []))]),
       ("more", Mutation.ofTable plays (.rows .insert [{ entries := [("at", .int 5)] }]))]
    ∃ plan, mutation.compile true = .ok plan ∧
      plan.tables.map (fun entry => (entry.table, entry.needsSeparate)) =
        [("songs", true), ("plays", false)] ∧
      ∀ entry ∈ plan.tables,
        (entry.needsSeparate ↔ Uneven (mutation.requestsTo entry.table)) ∧
        entry.needsSeparate = (watchAll mutation.requests entry.table).separate := by
  intro songs plays mutation
  exact ⟨_, rfl, rfl, compile_separates rfl⟩

end Mutation

end SqlCraft
