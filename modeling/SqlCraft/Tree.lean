/-
**Trees of descriptions.**

A query or mutation describes one table at each node of a tree, and includes others under a key.
Such a tree is worked off in depth-first pre-order: a node before its children, the children in
their order. `Tree.visits` lists the nodes in that order, each with the key and the node that it was
reached by, so that what is done at a node needs no recursion.

* `map_label_visits` — without those, the visits are the labels in pre-order.
-/

namespace SqlCraft

/-- A tree whose children have keys. -/
inductive Tree (α : Type) where
  | node (label : α) (children : List (String × Tree α))

namespace Tree

variable {α : Type}

/-- What the root holds. -/
def label : Tree α → α
  | node label _ => label

/-- The children of the root, with their keys. -/
def children : Tree α → List (String × Tree α)
  | node _ children => children

/-- The tree with another label at its root. -/
def withLabel (tree : Tree α) (label : α) : Tree α := node label tree.children

/-- The tree with one more child. -/
def including (tree : Tree α) (key : String) (child : Tree α) : Tree α :=
  node tree.label (tree.children ++ [(key, child)])

/-! ### Pre-order -/

mutual

/-- The labels in pre-order. -/
def preorder : Tree α → List α
  | node label children => label :: preorderAll children

/-- The labels of some trees, one tree after another. -/
def preorderAll : List (String × Tree α) → List α
  | [] => []
  | (_, child) :: rest => child.preorder ++ preorderAll rest

end

/-- A node as it is reached: its label and, below the root, the key it has and the label of the node
above it. -/
structure Visit (α : Type) where
  above : Option (String × α)
  label : α

mutual

/-- The visits of a tree that is reached in the given way. -/
def visitsFrom (above : Option (String × α)) : Tree α → List (Visit α)
  | node label children => ⟨above, label⟩ :: childVisits label children

/-- The visits of the children of a node. -/
def childVisits (parent : α) : List (String × Tree α) → List (Visit α)
  | [] => []
  | (key, child) :: rest => child.visitsFrom (some (key, parent)) ++ childVisits parent rest

end

/-- The nodes in pre-order, each as it is reached. -/
def visits (tree : Tree α) : List (Visit α) := tree.visitsFrom none

/-! ### Visits and labels -/

mutual

theorem map_label_visitsFrom (above : Option (String × α)) :
    ∀ tree : Tree α, (tree.visitsFrom above).map Visit.label = tree.preorder
  | node label children => by
    simp only [visitsFrom, preorder, List.map_cons, map_label_childVisits label children]

theorem map_label_childVisits (parent : α) :
    ∀ children : List (String × Tree α),
      (childVisits parent children).map Visit.label = preorderAll children
  | [] => rfl
  | (key, child) :: rest => by
    simp only [childVisits, preorderAll, List.map_append, map_label_visitsFrom _ child,
      map_label_childVisits parent rest]

end

theorem map_label_visits (tree : Tree α) : tree.visits.map Visit.label = tree.preorder :=
  map_label_visitsFrom none tree

end Tree

end SqlCraft
