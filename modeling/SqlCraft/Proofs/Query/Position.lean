/-
**Where the nodes of a query stand.**

A node of a tree has the nodes above it, and it has the nodes before it in pre-order, among them those
above. What a query shows of a node depends on whether one of the nodes before it has aggregates; the
walk carries this along, and the position of a node tells it at once. So the parts of a query are made
position by position.

* `Tree.Position`, `Tree.positions` — the nodes in pre-order, each with those above and before it;
* `Tree.ancestors_subset_earlier` — the nodes above a node are among those before it;
* `Query.parts_eq_mapM`, `Query.compile_eq` — the parts of a query, position by position.
-/

import SqlCraft.Proofs.Query.Parts

namespace SqlCraft

namespace Tree

variable {α : Type}

/-! ### Positions -/

/-- A node as it is reached, with the nodes above it and the nodes before it. -/
structure Position (α : Type) extends Visit α where
  /-- The nodes from the root to the one above. -/
  ancestors : List α
  /-- The nodes before it in pre-order. -/
  earlier : List α

mutual

/-- The positions of a tree that is reached in the given way, below and behind some nodes. -/
def positionsFrom (above : Option (String × α)) (ancestors earlier : List α) :
    Tree α → List (Position α)
  | node label children =>
    { above, label, ancestors, earlier } ::
      childPositions label (ancestors ++ [label]) (earlier ++ [label]) children

/-- The positions of the children of a node, below and behind some nodes. -/
def childPositions (parent : α) (ancestors earlier : List α) :
    List (String × Tree α) → List (Position α)
  | [] => []
  | (key, child) :: rest =>
    child.positionsFrom (some (key, parent)) ancestors earlier ++
      childPositions parent ancestors (earlier ++ child.preorder) rest

end

/-- The nodes in pre-order, each with those above and before it. -/
def positions (tree : Tree α) : List (Position α) := tree.positionsFrom none [] []

mutual

theorem map_visit_positionsFrom : ∀ (above : Option (String × α)) (ancestors earlier : List α)
    (tree : Tree α),
    (tree.positionsFrom above ancestors earlier).map Position.toVisit = tree.visitsFrom above
  | above, ancestors, earlier, node label children => by
    rw [positionsFrom, visitsFrom, List.map_cons, map_visit_childPositions]

theorem map_visit_childPositions : ∀ (parent : α) (ancestors earlier : List α)
    (children : List (String × Tree α)),
    (childPositions parent ancestors earlier children).map Position.toVisit =
      childVisits parent children
  | _, _, _, [] => rfl
  | parent, ancestors, earlier, (key, child) :: rest => by
    rw [childPositions, childVisits, List.map_append, map_visit_positionsFrom,
      map_visit_childPositions]

end

theorem map_visit_positions (tree : Tree α) : tree.positions.map Position.toVisit = tree.visits :=
  map_visit_positionsFrom none [] [] tree

theorem map_label_positionsFrom (above : Option (String × α)) (ancestors earlier : List α)
    (tree : Tree α) :
    (tree.positionsFrom above ancestors earlier).map (fun position => position.label) =
      tree.preorder := by
  rw [← map_label_visitsFrom above, ← map_visit_positionsFrom above ancestors earlier, List.map_map]
  rfl

mutual

theorem subset_of_positionsFrom : ∀ (above : Option (String × α)) {ancestors earlier : List α}
    (_ : ancestors ⊆ earlier) (tree : Tree α),
    ∀ position ∈ tree.positionsFrom above ancestors earlier, position.ancestors ⊆ position.earlier
  | above, ancestors, earlier, among, node label children, position, inside => by
    rw [positionsFrom, List.mem_cons] at inside
    rcases inside with rfl | below
    · exact among
    · refine subset_of_childPositions label ?_ children position below
      exact List.append_subset.2 ⟨List.subset_append_of_subset_left _ among,
        List.subset_append_right _ _⟩

theorem subset_of_childPositions : ∀ (parent : α) {ancestors earlier : List α}
    (_ : ancestors ⊆ earlier) (children : List (String × Tree α)),
    ∀ position ∈ childPositions parent ancestors earlier children,
      position.ancestors ⊆ position.earlier
  | parent, ancestors, earlier, among, (key, child) :: rest, position, inside => by
    rw [childPositions, List.mem_append] at inside
    rcases inside with here | later
    · exact subset_of_positionsFrom _ among child position here
    · exact subset_of_childPositions parent (List.subset_append_of_subset_left _ among) rest position
        later

end

/-- **The nodes above a node are among those before it.** -/
theorem ancestors_subset_earlier (tree : Tree α) :
    ∀ position ∈ tree.positions, position.ancestors ⊆ position.earlier :=
  subset_of_positionsFrom none (List.Subset.refl _) tree

/-- The nodes before each position are the given ones and those of the positions before it. -/
def Follow : List α → List (Position α) → Prop
  | _, [] => True
  | earlier, position :: rest =>
    position.earlier = earlier ∧ Follow (earlier ++ [position.label]) rest

theorem Follow.append {earlier : List α} {left right : List (Position α)}
    (first : Follow earlier left)
    (later : Follow (earlier ++ left.map fun position => position.label) right) :
    Follow earlier (left ++ right) := by
  induction left generalizing earlier with
  | nil => simpa using later
  | cons position left ih =>
    refine ⟨first.1, ih first.2 ?_⟩
    rwa [List.append_assoc]

mutual

theorem follow_positionsFrom : ∀ (above : Option (String × α)) (ancestors earlier : List α)
    (tree : Tree α), Follow earlier (tree.positionsFrom above ancestors earlier)
  | _, _, _, node label children => ⟨rfl, follow_childPositions label _ _ children⟩

theorem follow_childPositions : ∀ (parent : α) (ancestors earlier : List α)
    (children : List (String × Tree α)),
    Follow earlier (childPositions parent ancestors earlier children)
  | _, _, _, [] => trivial
  | parent, ancestors, earlier, (key, child) :: rest => by
    refine (follow_positionsFrom _ ancestors earlier child).append ?_
    rw [map_label_positionsFrom]
    exact follow_childPositions parent ancestors _ rest

end

end Tree

/-! ### Aggregates before and above a node -/

/-- Whether the node has aggregates. -/
def QueryNode.isAggregated (node : QueryNode) : Bool := !node.aggregates.isEmpty

namespace Tree.Position

/-- Whether a node before has aggregates. -/
def isBehindAggregate (position : Position QueryNode) : Bool :=
  position.earlier.any QueryNode.isAggregated

/-- Whether a node above has aggregates. -/
def isBelowAggregate (position : Position QueryNode) : Bool :=
  position.ancestors.any QueryNode.isAggregated

/-- The part of the node at a position. -/
def part (position : Position QueryNode) : Compiled SelectPart :=
  position.label.part position.above position.isBehindAggregate

end Tree.Position

namespace Query

theorem isBehindAggregate_of_isBelowAggregate {query : Query} :
    ∀ position ∈ query.positions, position.isBelowAggregate → position.isBehindAggregate := by
  intro position inside below
  obtain ⟨node, above, aggregated⟩ := List.any_eq_true.1 below
  have before := query.ancestors_subset_earlier position inside above
  exact List.any_eq_true.2 ⟨node, before, aggregated⟩

theorem parts_eq_mapM {earlier : List QueryNode} {positions : List (Tree.Position QueryNode)}
    (follow : Tree.Follow earlier positions) :
    parts (earlier.any QueryNode.isAggregated) (positions.map Tree.Position.toVisit) =
      positions.mapM Tree.Position.part := by
  induction positions generalizing earlier with
  | nil => rfl
  | cons position rest ih =>
    -- What the walk carries along is whether a node before has aggregates.
    have flag : (earlier.any QueryNode.isAggregated || !position.label.aggregates.isEmpty) =
        (earlier ++ [position.label]).any QueryNode.isAggregated := by
      simp [QueryNode.isAggregated]
    have here : position.part =
        position.label.part position.above (earlier.any QueryNode.isAggregated) := by
      rw [Tree.Position.part, Tree.Position.isBehindAggregate, follow.1]
    rw [List.map_cons, parts, flag, ih follow.2, List.mapM_cons, here]

/-- **The parts of a query are made position by position.** -/
theorem compile_eq (query : Query) :
    query.compile = (query.positions.mapM Tree.Position.part).map (assemble query.label) := by
  have parts := parts_eq_mapM (Tree.follow_positionsFrom none [] [] query)
  rw [Tree.map_visit_positionsFrom] at parts
  exact congrArg (Except.map (assemble query.label)) parts

/-- The positions of a query that compiles have one part each. -/
theorem compile_positions {query : Query} {select : Select} (compiled : query.compile = .ok select) :
    ∃ found, select = assemble query.label found ∧
      List.Forall₂ (fun position part =>
        position.label.Contributes position.above position.isBehindAggregate part)
        query.positions found := by
  rw [compile_eq] at compiled
  obtain ⟨found, ran, rfl⟩ := map_eq_ok compiled
  exact ⟨found, rfl, (mapM_eq_ok ran).imp fun _ _ => QueryNode.contributes_of_part⟩

end Query

end SqlCraft
