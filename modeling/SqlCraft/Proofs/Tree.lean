/-
**Walks that hand on a state.**

A tree can be worked off by a recursion that hands one state from node to node: through a node, then through
its children in their order, each behind the one before. Whatever is done at the nodes, that is a loop over
the visits of the tree, and the first refusal ends both.

* `Tree.walkFrom` — the recursion;
* `Tree.walk_eq_foldlM` — the loop.
-/

import SqlCraft.Proofs.Compiled
import SqlCraft.Tree

namespace SqlCraft.Tree

section

variable {α σ : Type} (step : σ → Visit α → Compiled σ)

mutual

/-- The state behind a tree that is reached in the given way. -/
def walkFrom (above : Option (String × α)) (state : σ) : Tree α → Compiled σ
  | node label children => do
    walkChildren label (← step state ⟨above, label⟩) children

/-- The state behind the children of a node. -/
def walkChildren (parent : α) (state : σ) : List (String × Tree α) → Compiled σ
  | [] => .ok state
  | (key, child) :: rest => do
    walkChildren parent (← walkFrom (some (key, parent)) state child) rest

end

/-- The state behind a tree. -/
def walk (state : σ) (tree : Tree α) : Compiled σ := tree.walkFrom step none state

mutual

theorem walkFrom_eq_foldlM (above : Option (String × α)) (state : σ) :
    ∀ tree : Tree α, tree.walkFrom step above state = (tree.visitsFrom above).foldlM step state
  | node label children => by
    rw [walkFrom, visitsFrom, List.foldlM_cons]
    exact congrArg _ (funext fun behind => walkChildren_eq_foldlM label behind children)

theorem walkChildren_eq_foldlM (parent : α) (state : σ) :
    ∀ children : List (String × Tree α),
      walkChildren step parent state children = (childVisits parent children).foldlM step state
  | [] => rfl
  | (key, child) :: rest => by
    rw [walkChildren, childVisits, List.foldlM_append, walkFrom_eq_foldlM _ state child]
    exact congrArg _ (funext fun behind => walkChildren_eq_foldlM parent behind rest)

end

/-- **A walk that hands on a state is a loop over the visits.** -/
theorem walk_eq_foldlM (state : σ) (tree : Tree α) :
    tree.walk step state = tree.visits.foldlM step state :=
  walkFrom_eq_foldlM step none state tree

end

end SqlCraft.Tree
