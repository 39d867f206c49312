/-
**What each node of a query contributes to its select.**

A query that compiles has one part per node, in pre-order, and the select holds the parts one behind
the other.

* `QueryNode.Contributes` — the part of a node: all that compiling it has checked and made;
* `Query.compile_parts` — a select is assembled from the parts of the nodes;
* `Query.compile_filters` — its clauses are those of the nodes' own filters.
-/

import SqlCraft.Proofs.Compiled
import SqlCraft.Query.Select

namespace SqlCraft

/-- A part is what a node contributes that is reached in the given way. -/
structure QueryNode.Contributes (node : QueryNode) (above : Option (String × QueryNode))
    (aggregated : Bool) (part : SelectPart) : Prop where
  paged : above.isSome → node.isPaged = false
  exclusive : node.select.isSome → node.aggregates = []
  projections : node.projections aggregated = .ok part.projections
  clauses : node.filter.compile node.table = .ok part.clauses
  join : node.join? above = .ok part.join
  order : node.orderBy.mapM node.sortKey = .ok part.order

theorem QueryNode.contributes_of_part {node : QueryNode} {above : Option (String × QueryNode)}
    {aggregated : Bool} {part : SelectPart} (compiled : node.part above aggregated = .ok part) :
    node.Contributes above aggregated part := by
  unfold QueryNode.part at compiled
  by_cases paged : above.isSome && node.isPaged
  · rw [if_pos paged] at compiled
    cases compiled
  rw [if_neg paged] at compiled
  by_cases both : node.select.isSome && !node.aggregates.isEmpty
  · rw [if_pos both] at compiled
    cases compiled
  rw [if_neg both] at compiled
  obtain ⟨projections, shown, compiled⟩ := bind_eq_ok compiled
  obtain ⟨clauses, filtered, compiled⟩ := bind_eq_ok compiled
  obtain ⟨join, joined, compiled⟩ := bind_eq_ok compiled
  obtain ⟨order, ordered, compiled⟩ := bind_eq_ok compiled
  cases compiled
  refine ⟨fun below => ?_, fun selects => ?_, shown, filtered, joined, ordered⟩
  · simpa [below] using paged
  · simpa [selects] using both

namespace Query

open List (Forall₂)

/-- The visits of a query have one part each. -/
theorem parts_forall₂ {aggregated : Bool} {visits : List (Tree.Visit QueryNode)}
    {found : List SelectPart} (compiled : parts aggregated visits = .ok found) :
    Forall₂ (fun visit part => ∃ aggregated, visit.label.Contributes visit.above aggregated part)
      visits found := by
  induction visits generalizing aggregated found with
  | nil =>
    cases compiled
    exact .nil
  | cons visit rest ih =>
    obtain ⟨part, here, compiled⟩ := bind_eq_ok compiled
    obtain ⟨later, readLater, compiled⟩ := bind_eq_ok compiled
    cases compiled
    exact .cons ⟨aggregated, QueryNode.contributes_of_part here⟩ (ih readLater)

/-- **A select is assembled from the parts of the nodes.** -/
theorem compile_parts {query : Query} {select : Select} (compiled : query.compile = .ok select) :
    ∃ found, select = assemble query.label found ∧
      Forall₂ (fun visit part => ∃ aggregated, visit.label.Contributes visit.above aggregated part)
        query.visits found := by
  obtain ⟨found, ran, rfl⟩ := map_eq_ok compiled
  exact ⟨found, rfl, parts_forall₂ ran⟩

/-- **The clauses of a select are those of the nodes' own filters**, in pre-order. -/
theorem compile_filters {query : Query} {select : Select} (compiled : query.compile = .ok select) :
    ∃ own, select.clauses = own.flatten ∧
      Forall₂ (fun node clauses => node.filter.compile node.table = .ok clauses) query.preorder own := by
  obtain ⟨found, rfl, parts⟩ := compile_parts compiled
  refine ⟨found.map SelectPart.clauses, List.flatMap_def, ?_⟩
  rw [← Tree.map_label_visits, List.forall₂_map_left_iff, List.forall₂_map_right_iff]
  exact parts.imp fun visit part ⟨_, contributes⟩ => contributes.clauses

theorem build_eq_ok {query : Query} {built : Sql.BoundText} (compiled : query.build = .ok built) :
    ∃ select, query.compile = .ok select ∧ built = select.fragment.bound := by
  obtain ⟨select, ran, rfl⟩ := map_eq_ok compiled
  exact ⟨select, ran, rfl⟩

end Query

end SqlCraft
