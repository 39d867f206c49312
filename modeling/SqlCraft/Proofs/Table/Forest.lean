/-
**Roots of a union-find forest.**

Looking a root up and pointing the way to it at the root leaves every root as it was. Joining two classes
gives their elements the lesser of the two roots, and leaves the others as they were. So the elements of
one root are those that the links connect.

* `isRoot_root`, `root_le` — a root is its own parent, and no greater than its elements;
* `find_fst`, `root_find` — what is found is the root, and finding changes no root;
* `root_union` — the roots behind a union;
* `root_unionAll_eq_iff` — elements have one root exactly if the links connect them.
-/

import Mathlib.Logic.Relation
import Mathlib.Order.Fin.Basic
import SqlCraft.Table.Forest

namespace SqlCraft.Forest

open Relation (EqvGen)

variable {n : Nat} (forest : Forest n)

/-! ### Parents and roots -/

/-- The parent of an element. -/
def parentOf (node : Fin n) : Fin n := forest.parent.get node

/-- An element is a root if it is its own parent. -/
def IsRoot (node : Fin n) : Prop := forest.parentOf node = node

variable {forest}

theorem IsRoot.root_eq {node : Fin n} (isRoot : forest.IsRoot node) : forest.root node = node := by
  rw [root]
  exact dif_pos isRoot

/-- A parent that is another element is less. -/
theorem parent_lt {node : Fin n} (other : ¬ forest.IsRoot node) : forest.parentOf node < node :=
  lt_of_le_of_ne (forest.parent_le node) other

variable (forest)

theorem root_parent (node : Fin n) : forest.root (forest.parentOf node) = forest.root node := by
  by_cases same : forest.parent[node] = node
  · exact congrArg forest.root same
  · rw [root.eq_def forest node, dif_neg same]
    rfl

/-- **A root is its own parent.** -/
theorem isRoot_root (node : Fin n) : forest.IsRoot (forest.root node) := by
  induction node using WellFoundedLT.induction with
  | ind node ih =>
    by_cases same : forest.IsRoot node
    · rw [same.root_eq]
      exact same
    · rw [← forest.root_parent]
      exact ih _ (parent_lt same)

theorem root_root (node : Fin n) : forest.root (forest.root node) = forest.root node :=
  (forest.isRoot_root node).root_eq

/-- **A root is no greater than its elements.** -/
theorem root_le (node : Fin n) : forest.root node ≤ node := by
  induction node using WellFoundedLT.induction with
  | ind node ih =>
    by_cases same : forest.IsRoot node
    · rw [same.root_eq]
    · rw [← forest.root_parent]
      exact (ih _ (parent_lt same)).trans (forest.parent_le node)

theorem root_discrete (node : Fin n) : (discrete n).root node = node :=
  IsRoot.root_eq (Vector.getElem_ofFn node.isLt)

/-! ### One element pointed at another -/

theorem parent_point {node target : Fin n} (le : target ≤ node) (other : Fin n) :
    (forest.point node target le).parentOf other =
      if other = node then target else forest.parentOf other := by
  show (forest.point node target le).parent[other] = if other = node then target else forest.parent[other]
  by_cases same : other = node
  · subst same
    simp [point]
  · have differ : node.val ≠ other.val := fun equal => same (Fin.ext equal.symm)
    simp [point, same, differ]

/-- Pointing an element at its own root changes no root. -/
theorem root_point_root (node : Fin n) (le : forest.root node ≤ node) (other : Fin n) :
    (forest.point node (forest.root node) le).root other = forest.root other := by
  induction other using WellFoundedLT.induction with
  | ind other ih =>
    have parent := forest.parent_point le other
    by_cases here : other = node
    · rw [if_pos here] at parent
      by_cases stays : forest.root node = other
      · rw [IsRoot.root_eq (parent.trans stays), ← stays, root_root]
      · rw [← root_parent, parent, ih _ (lt_of_le_of_ne (here ▸ le) stays), root_root, here]
    · rw [if_neg here] at parent
      by_cases stays : forest.IsRoot other
      · rw [IsRoot.root_eq (parent.trans stays), stays.root_eq]
      · rw [← root_parent, parent, ih _ (parent_lt stays), root_parent]

/-- Pointing a root at another root gives its elements that root. -/
theorem root_point {high low : Fin n} (highest : forest.IsRoot high) (lowest : forest.IsRoot low)
    (le : low ≤ high) (other : Fin n) :
    (forest.point high low le).root other =
      if forest.root other = high then low else forest.root other := by
  induction other using WellFoundedLT.induction with
  | ind other ih =>
    have parent := forest.parent_point le other
    by_cases here : other = high
    · subst here
      rw [if_pos rfl] at parent
      rw [highest.root_eq, if_pos rfl]
      by_cases stays : low = other
      · rw [IsRoot.root_eq (parent.trans stays), stays]
      · rw [← root_parent, parent, ih low (lt_of_le_of_ne le stays), lowest.root_eq, if_neg stays]
    · rw [if_neg here] at parent
      by_cases stays : forest.IsRoot other
      · rw [IsRoot.root_eq (parent.trans stays), stays.root_eq, if_neg here]
      · rw [← root_parent, parent, ih _ (parent_lt stays), root_parent]

/-! ### Looking a root up -/

/-- **What is found is the root, and no root is changed by finding it.** -/
theorem find_spec (node : Fin n) : (forest.find node).1.val = forest.root node ∧
    ∀ other, (forest.find node).2.root other = forest.root other := by
  induction node using WellFoundedLT.induction with
  | ind node ih =>
    by_cases same : forest.parent[node] = node
    · rw [find, dif_pos same]
      exact ⟨(IsRoot.root_eq same).symm, fun _ => rfl⟩
    · obtain ⟨above, kept⟩ := ih forest.parent[node] (parent_lt same)
      have found := above.trans (forest.root_parent node)
      rw [find, dif_neg same]
      refine ⟨found, fun other => ?_⟩
      -- The root is the same in the compressed forest, so the element is pointed at its own root.
      have mine := found.trans (kept node).symm
      simp only [mine]
      rw [root_point_root, kept]

theorem find_fst (node : Fin n) : (forest.find node).1.val = forest.root node :=
  (forest.find_spec node).1

theorem root_find (node other : Fin n) : (forest.find node).2.root other = forest.root other :=
  (forest.find_spec node).2 other

/-! ### Joining classes -/

/-- The forest behind the look-ups of two elements. -/
def compressed (first second : Fin n) : Forest n := ((forest.find first).2.find second).2

theorem root_compressed (first second node : Fin n) :
    (forest.compressed first second).root node = forest.root node :=
  (root_find _ second node).trans (forest.root_find first node)

/-- A union points the greater of two roots at the lesser. -/
theorem union_eq (first second : Fin n) :
    forest.union first second =
      if le : forest.root first ≤ forest.root second then
        if forest.root first = forest.root second then forest.compressed first second
        else (forest.compressed first second).point (forest.root second) (forest.root first) le
      else (forest.compressed first second).point (forest.root first) (forest.root second)
        (Nat.le_of_lt (Nat.lt_of_not_le le)) := by
  have left : (forest.find first).1.val = forest.root first := forest.find_fst first
  have right : ((forest.find first).2.find second).1.val = forest.root second :=
    (find_fst _ second).trans (forest.root_find first second)
  rw [union]
  simp only [left, right, compressed]

/-- **Behind a union, the elements of the two classes have the lesser of their roots.** -/
theorem root_union (first second other : Fin n) :
    (forest.union first second).root other =
      if forest.root other = forest.root first ∨ forest.root other = forest.root second then
        min (forest.root first) (forest.root second)
      else forest.root other := by
  have kept := forest.root_compressed first second
  have isRoot (node : Fin n) : (forest.compressed first second).IsRoot (forest.root node) :=
    kept node ▸ isRoot_root _ node
  rw [union_eq]
  by_cases le : forest.root first ≤ forest.root second
  · rw [dif_pos le, min_eq_left le]
    by_cases same : forest.root first = forest.root second
    · rw [if_pos same, kept]
      by_cases mine : forest.root other = forest.root first
      · rw [mine, if_pos (.inl rfl)]
      · rw [if_neg (not_or.2 ⟨mine, same ▸ mine⟩)]
    · rw [if_neg same, root_point _ (isRoot second) (isRoot first), kept]
      by_cases mine : forest.root other = forest.root first
      · rw [mine, if_neg same, if_pos (.inl rfl)]
      · simp only [mine, false_or]
  · rw [dif_neg le, min_eq_right (le_of_not_ge le), root_point _ (isRoot first) (isRoot second), kept]
    by_cases mine : forest.root other = forest.root second
    · rw [mine, if_pos (Or.inr rfl), ite_self]
    · simp only [mine, or_false]

/-- The two elements of a union have one root behind it. -/
theorem root_union_joins (first second : Fin n) :
    (forest.union first second).root first = (forest.union first second).root second := by
  rw [root_union, root_union, if_pos (.inl rfl), if_pos (.inr rfl)]

/-- Elements that have one root keep one. -/
theorem root_union_congr {one other : Fin n} (same : forest.root one = forest.root other)
    (first second : Fin n) :
    (forest.union first second).root one = (forest.union first second).root other := by
  rw [root_union, root_union, same]

/-! ### All links -/

/-- Every element is connected to its root. -/
def Linked (links : Fin n → Fin n → Prop) : Prop := ∀ node, EqvGen links node (forest.root node)

/-- A union of connected elements leaves every element connected to its root. -/
theorem Linked.union {links : Fin n → Fin n → Prop} {forest : Forest n} (linked : forest.Linked links)
    {first second : Fin n} (link : EqvGen links first second) :
    (forest.union first second).Linked links := by
  intro node
  rw [root_union]
  have across : EqvGen links (forest.root first) (forest.root second) :=
    ((linked first).symm _ _).trans _ _ _ (link.trans _ _ _ (linked second))
  have either {root : Fin n} (mine : root = forest.root first ∨ root = forest.root second) :
      EqvGen links root (min (forest.root first) (forest.root second)) := by
    rcases le_total (forest.root first) (forest.root second) with le | le
    · rw [min_eq_left le]
      rcases mine with rfl | rfl
      · exact .refl _
      · exact across.symm _ _
    · rw [min_eq_right le]
      rcases mine with rfl | rfl
      · exact across
      · exact .refl _
  split
  · rename_i mine
    exact (linked node).trans _ _ _ (either mine)
  · exact linked node

/-- Elements that have one root keep one through all unions. -/
theorem root_unionAll_congr {forest : Forest n} {one other : Fin n}
    (same : forest.root one = forest.root other) (links : List (Fin n × Fin n)) :
    (forest.unionAll links).root one = (forest.unionAll links).root other := by
  induction links generalizing forest with
  | nil => exact same
  | cons link rest ih => exact ih (root_union_congr _ same link.1 link.2)

/-- Linked elements have one root behind all unions. -/
theorem root_unionAll_of_mem {forest : Forest n} {links : List (Fin n × Fin n)} {one other : Fin n}
    (inside : (one, other) ∈ links) :
    (forest.unionAll links).root one = (forest.unionAll links).root other := by
  induction links generalizing forest with
  | nil => cases inside
  | cons link rest ih =>
    rcases List.mem_cons.1 inside with rfl | later
    · exact root_unionAll_congr (root_union_joins _ one other) rest
    · exact ih later

theorem Linked.unionAll {connected : Fin n → Fin n → Prop} {forest : Forest n}
    (linked : forest.Linked connected) {links : List (Fin n × Fin n)}
    (among : ∀ link ∈ links, EqvGen connected link.1 link.2) :
    (forest.unionAll links).Linked connected := by
  induction links generalizing forest with
  | nil => exact linked
  | cons link rest ih =>
    obtain ⟨here, later⟩ := List.forall_mem_cons.1 among
    exact ih (linked.union here) later

/-- **Elements have one root exactly if the links connect them.** -/
theorem root_unionAll_eq_iff {links : List (Fin n × Fin n)} {one other : Fin n} :
    ((discrete n).unionAll links).root one = ((discrete n).unionAll links).root other ↔
      EqvGen (fun first second => (first, second) ∈ links) one other := by
  constructor
  · intro same
    have start : (discrete n).Linked fun first second => (first, second) ∈ links := by
      intro node
      rw [root_discrete]
      exact .refl node
    have linked := start.unionAll fun link inside => .rel link.1 link.2 inside
    exact (linked one).trans _ _ _ (same ▸ (linked other).symm _ _)
  · intro connected
    induction connected with
    | rel first second inside => exact root_unionAll_of_mem inside
    | refl => rfl
    | symm _ _ _ ih => exact ih.symm
    | trans _ _ _ _ _ ihFirst ihSecond => exact ihFirst.trans ihSecond

end SqlCraft.Forest
