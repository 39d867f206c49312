/-
**A union-find forest ordered by index.**

Each of `n` elements points to a parent that is no greater than itself; the elements that point to
themselves are the roots. Two classes are joined by pointing the greater root to the smaller, so the
root of an element is the least of its class. Looking a root up points every element on the way to
it directly at the root.

The order is part of the type, so the walk to the root ends because the index shrinks.
-/

namespace SqlCraft

/-- Parents of `n` elements, none greater than its child. -/
structure Forest (n : Nat) where
  parent : Vector (Fin n) n
  parent_le : ∀ node : Fin n, parent[node] ≤ node

namespace Forest

variable {n : Nat}

/-- Every element is alone in its class. -/
def discrete (n : Nat) : Forest n where
  parent := Vector.ofFn id
  parent_le node := by simp

/-- The forest with one element pointed at another that is no greater. -/
def point (forest : Forest n) (node target : Fin n) (le : target ≤ node) : Forest n where
  parent := forest.parent.set node target
  parent_le other := by
    by_cases same : node = other
    · subst same
      simpa using le
    · have differ : node.val ≠ other.val := fun h => same (Fin.ext h)
      simpa [Vector.getElem_set, differ] using forest.parent_le other

/-- The root of an element. -/
def root (forest : Forest n) (node : Fin n) : Fin n :=
  if _stop : forest.parent[node] = node then node else forest.root forest.parent[node]
termination_by node.val
decreasing_by
  have := forest.parent_le node
  exact Nat.lt_of_le_of_ne this fun h => _stop (Fin.ext h)

/-- The root of an element, no greater than it, and the forest in which every element on the way
points at the root. -/
def find (forest : Forest n) (node : Fin n) : { root : Fin n // root ≤ node } × Forest n :=
  if _stop : forest.parent[node] = node then (⟨node, Nat.le_refl _⟩, forest)
  else
    let (⟨root, le⟩, compressed) := forest.find forest.parent[node]
    have le : root ≤ node := Nat.le_trans le (forest.parent_le node)
    (⟨root, le⟩, compressed.point node root le)
termination_by node.val
decreasing_by
  have := forest.parent_le node
  exact Nat.lt_of_le_of_ne this fun h => _stop (Fin.ext h)

/-- The forest in which the classes of two elements are one. -/
def union (forest : Forest n) (first second : Fin n) : Forest n :=
  let (⟨left, _⟩, forest) := forest.find first
  let (⟨right, _⟩, forest) := forest.find second
  if le : left ≤ right then
    if left = right then forest else forest.point right left le
  else forest.point left right (Nat.le_of_lt (Nat.lt_of_not_le le))

/-- The forest in which each pair of elements is joined, one after another. -/
def unionAll (forest : Forest n) (links : List (Fin n × Fin n)) : Forest n :=
  links.foldl (fun forest link => forest.union link.1 link.2) forest

end Forest

end SqlCraft
