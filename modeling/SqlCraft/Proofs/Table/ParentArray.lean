/-
**A forest kept in an array of parents.**

Looking a root up takes two loops over a bare array of parents. The first climbs from parent to parent to
an element that is its own; the second climbs again and points what it passes at the root. Neither loop has
a measure of its own, and each fails where it leaves the array. What carries them is that no parent is
greater than its child: this outlives the link from the greater root to the lesser and the shorter way that
a look-up leaves behind. So the loops end, and they end with the parents of `Forest.find` and
`Forest.union`, whatever was looked up and joined before.

* `climb_parents`, `compress_parents` — the loops end with the root and the compressed forest;
* `lookUp_parents`, `join_parents` — so do a look-up and a union;
* `root_perform` — look-ups between the unions change no root;
* `perform_discrete` — what any sequence of look-ups and unions makes of single elements.
-/

import Mathlib.Data.PFun
import Mathlib.Order.Bounds.Defs
import SqlCraft.Proofs.Table.Forest

namespace SqlCraft.Forest

open Relation (EqvGen)

/-! ### The loops -/

/-- One round of the first loop: it ends at an element that is its own parent. -/
def climbRound (parents : Array Nat) : Nat →. Nat ⊕ Nat := fun node =>
  (Part.ofOption parents[node]?).map fun parent => if parent = node then .inl node else .inr parent

/-- Up from parent to parent to an element that is its own. There is no result where the way leaves the
array or has no end. -/
def climb (parents : Array Nat) (node : Nat) : Part Nat := (climbRound parents).fix node

/-- One round of the second loop: it ends below `root`, and points any other element at it. -/
def compressRound (root : Nat) : Array Nat × Nat →. Array Nat ⊕ (Array Nat × Nat) := fun (parents, node) =>
  (Part.ofOption parents[node]?).map fun parent =>
    if parent = root then .inl parents else .inr (parents.setIfInBounds node root, parent)

/-- Up again to the element below `root`, with every element on the way pointed at `root`. -/
def compress (parents : Array Nat) (root node : Nat) : Part (Array Nat) :=
  (compressRound root).fix (parents, node)

/-- The root of an element, and the array with a shorter way to it. -/
def lookUp (parents : Array Nat) (node : Nat) : Part (Nat × Array Nat) := do
  let root ← climb parents node
  let compressed ← compress parents root node
  return (root, compressed)

/-- The array with the greater of two roots pointed at the lesser. -/
def join (parents : Array Nat) (first second : Nat) : Part (Array Nat) := do
  let (left, parents) ← lookUp parents first
  let (right, parents) ← lookUp parents second
  if left = right then return parents
  else if inside : max left right < parents.size then
    return parents.set (max left right) (min left right) inside
  else Part.none

section

variable {parents : Array Nat} {root node parent : Nat}

theorem climb_of_own (own : parents[node]? = some node) : climb parents node = Part.some node := by
  refine Part.eq_some_iff.2 (PFun.fix_stop ?_)
  rw [climbRound, own]
  exact (Part.mem_map_iff _).2 ⟨node, Part.mem_some node, if_pos rfl⟩

theorem climb_of_other (up : parents[node]? = some parent) (other : parent ≠ node) :
    climb parents node = climb parents parent := by
  refine PFun.fix_fwd_eq ?_
  rw [climbRound, up]
  exact (Part.mem_map_iff _).2 ⟨parent, Part.mem_some parent, if_neg other⟩

theorem compress_of_root (last : parents[node]? = some root) :
    compress parents root node = Part.some parents := by
  refine Part.eq_some_iff.2 (PFun.fix_stop ?_)
  simp only [compressRound, last]
  exact (Part.mem_map_iff _).2 ⟨root, Part.mem_some root, if_pos rfl⟩

theorem compress_of_other (up : parents[node]? = some parent) (other : parent ≠ root) :
    compress parents root node = compress (parents.setIfInBounds node root) root parent := by
  refine PFun.fix_fwd_eq ?_
  simp only [compressRound, up]
  exact (Part.mem_map_iff _).2 ⟨parent, Part.mem_some parent, if_neg other⟩

end

/-- One call on a forest of `n` elements. -/
inductive Operation (n : Nat) where
  | find (node : Fin n)
  | union (first second : Fin n)

variable {n : Nat}

namespace Operation

/-- The call on a forest. -/
def perform (forest : Forest n) : Operation n → Forest n
  | find node => (forest.find node).2
  | union first second => forest.union first second

/-- The call on an array of parents. -/
def run (parents : Array Nat) : Operation n → Part (Array Nat)
  | find node => (lookUp parents node).map Prod.snd
  | union first second => join parents first second

/-- The elements that a call links. -/
def link? : Operation n → Option (Fin n × Fin n)
  | find _ => none
  | union first second => some (first, second)

theorem mem_filterMap_link? {operations : List (Operation n)} {first second : Fin n} :
    (first, second) ∈ operations.filterMap link? ↔ union first second ∈ operations := by
  rw [List.mem_filterMap]
  constructor
  · rintro ⟨operation, inside, links⟩
    cases operation with
    | find node => cases links
    | union one other =>
      cases links
      exact inside
  · intro inside
    exact ⟨_, inside, rfl⟩

end Operation

/-! ### The array of a forest -/

/-- The parents of all elements, in order. -/
def parents (forest : Forest n) : Array Nat := forest.parent.toArray.map Fin.val

@[simp] theorem size_parents (forest : Forest n) : forest.parents.size = n := by
  simp [parents]

theorem getElem_parents (forest : Forest n) {index : Nat} (inside : index < forest.parents.size) :
    forest.parents[index] = forest.parentOf ⟨index, forest.size_parents ▸ inside⟩ := by
  simp [parents, parentOf, Vector.get]

theorem getElem?_parents (forest : Forest n) (node : Fin n) :
    forest.parents[node.val]? = some (forest.parentOf node).val := by
  rw [Array.getElem?_eq_getElem (by simp), getElem_parents]

/-- No parent is greater than its child. -/
theorem parents_le (forest : Forest n) {index : Nat} (inside : index < forest.parents.size) :
    forest.parents[index] ≤ index := by
  rw [getElem_parents]
  exact forest.parent_le ⟨index, forest.size_parents ▸ inside⟩

theorem parents_discrete (n : Nat) : (discrete n).parents = Array.range n := by
  apply Array.ext
  · simp
  · intro index inside _
    simp [parents, discrete]

theorem parents_point (forest : Forest n) {node target : Fin n} (le : target ≤ node) :
    (forest.point node target le).parents = forest.parents.setIfInBounds node target := by
  rw [parents, point, Vector.toArray_set, Array.map_set, parents, Array.setIfInBounds, dif_pos]

/-! ### Elements pointed elsewhere -/

theorem ext_parentOf {one other : Forest n} (same : ∀ node, one.parentOf node = other.parentOf node) :
    one = other := by
  obtain ⟨parent, le⟩ := one
  obtain ⟨parent', le'⟩ := other
  have equal : parent = parent' := Vector.ext fun index inside => same ⟨index, inside⟩
  subst equal
  rfl

/-- An element pointed at its parent points where it did. -/
theorem point_parentOf (forest : Forest n) {node target : Fin n} (le : target ≤ node)
    (already : forest.parentOf node = target) : forest.point node target le = forest := by
  refine ext_parentOf fun other => ?_
  rw [parent_point]
  split
  · rename_i same
    rw [same, already]
  · rfl

/-- Two elements can be pointed elsewhere in either order. -/
theorem point_comm (forest : Forest n) {one other target goal : Fin n} (differ : one ≠ other)
    (le : target ≤ one) (le' : goal ≤ other) :
    (forest.point one target le).point other goal le' =
      (forest.point other goal le').point one target le := by
  refine ext_parentOf fun node => ?_
  simp only [parent_point]
  by_cases here : node = one
  · rw [here, if_neg differ, if_pos rfl, if_pos rfl]
  · rw [if_neg here, if_neg here]

/-- The way up never comes to a greater element, so it does not see where that points. -/
theorem root_point_of_lt (forest : Forest n) {node target below : Fin n} (le : target ≤ node)
    (less : below < node) : (forest.point node target le).root below = forest.root below := by
  induction below using WellFoundedLT.induction with
  | ind below ih =>
    have unseen : (forest.point node target le).parentOf below = forest.parentOf below :=
      (forest.parent_point le below).trans (if_neg less.ne)
    by_cases stays : forest.IsRoot below
    · rw [stays.root_eq, IsRoot.root_eq (unseen.trans stays)]
    · have lower := parent_lt stays
      rw [← root_parent, unseen, ih _ lower (lower.trans less), root_parent]

/-! ### Looking a root up, step by step -/

/-- A root is found at once. -/
theorem IsRoot.find_snd {forest : Forest n} {node : Fin n} (isRoot : forest.IsRoot node) :
    (forest.find node).2 = forest := by
  rw [find]
  exact congrArg Prod.snd (dif_pos isRoot)

/-- Another element is pointed at its root behind the look-up of its parent. -/
theorem find_snd_of_not_isRoot {forest : Forest n} {node : Fin n} (other : ¬ forest.IsRoot node) :
    (forest.find node).2 =
      (forest.find (forest.parentOf node)).2.point node (forest.root node) (forest.root_le node) := by
  have found : (forest.find (forest.parentOf node)).1.val = forest.root node :=
    (forest.find_fst _).trans (forest.root_parent node)
  have unfolded : (forest.find node).2 = (forest.find (forest.parentOf node)).2.point node
      (forest.find (forest.parentOf node)).1.val
      ((forest.find (forest.parentOf node)).1.2.trans (forest.parent_le node)) := by
    rw [find]
    exact congrArg Prod.snd (dif_neg other)
  rw [unfolded]
  simp only [found]

/-- A look-up below an element does not care where that element points. -/
theorem find_point_of_lt (forest : Forest n) {node target below : Fin n} (le : target ≤ node)
    (less : below < node) :
    ((forest.point node target le).find below).2 = (forest.find below).2.point node target le := by
  induction below using WellFoundedLT.induction with
  | ind below ih =>
    have unseen : (forest.point node target le).parentOf below = forest.parentOf below :=
      (forest.parent_point le below).trans (if_neg less.ne)
    by_cases stays : forest.IsRoot below
    · rw [stays.find_snd, IsRoot.find_snd (unseen.trans stays)]
    · have lower := parent_lt stays
      have moves : ¬ (forest.point node target le).IsRoot below := fun same =>
        stays (unseen.symm.trans same)
      have above : ((forest.point node target le).find
          ((forest.point node target le).parentOf below)).2 =
            (forest.find (forest.parentOf below)).2.point node target le := by
        rw [unseen]
        exact ih _ lower (lower.trans less)
      rw [find_snd_of_not_isRoot stays, find_snd_of_not_isRoot moves, above]
      simp only [forest.root_point_of_lt le less]
      exact point_comm _ less.ne' _ _

/-! ### The loops on the array of a forest -/

/-- **The first loop ends at the root.** -/
theorem climb_parents (forest : Forest n) (node : Fin n) :
    climb forest.parents node = Part.some (forest.root node).val := by
  induction node using WellFoundedLT.induction with
  | ind node ih =>
    have up := forest.getElem?_parents node
    by_cases stays : forest.IsRoot node
    · rw [stays.root_eq]
      exact climb_of_own (up.trans (congrArg (some ∘ Fin.val) stays))
    · rw [climb_of_other up fun same => stays (Fin.ext same), ih _ (parent_lt stays), root_parent]

/-- **The second loop ends with the compressed forest.** -/
theorem compress_parents (forest : Forest n) (node : Fin n) :
    compress forest.parents (forest.root node) node = Part.some (forest.find node).2.parents := by
  induction node using WellFoundedLT.induction generalizing forest with
  | ind node ih =>
    have up := forest.getElem?_parents node
    by_cases last : forest.parentOf node = forest.root node
    · -- Here the way ends: the element is the root, or it is the one below and points there already.
      rw [compress_of_root (up.trans (congrArg (some ∘ Fin.val) last))]
      by_cases stays : forest.IsRoot node
      · rw [stays.find_snd]
      · have topmost : forest.IsRoot (forest.parentOf node) := last ▸ forest.isRoot_root node
        rw [find_snd_of_not_isRoot stays, topmost.find_snd, point_parentOf _ _ last]
    · have stays : ¬ forest.IsRoot node := fun same => last (same.trans same.root_eq.symm)
      have lower := parent_lt stays
      -- The element is pointed at the root before its parent is looked up, and not behind that.
      have rest := ih _ lower (forest.point node (forest.root node) (forest.root_le node))
      rw [forest.root_point_of_lt _ lower, root_parent, parents_point,
        forest.find_point_of_lt _ lower] at rest
      rw [compress_of_other up fun same => last (Fin.ext same), rest, find_snd_of_not_isRoot stays]

/-- **A look-up on the array is one on the forest.** -/
theorem lookUp_parents (forest : Forest n) (node : Fin n) : lookUp forest.parents node =
    Part.some ((forest.find node).1.val.val, (forest.find node).2.parents) := by
  rw [lookUp, climb_parents, Part.bind_eq_bind, Part.bind_some, compress_parents, Part.bind_eq_bind,
    Part.bind_some, find_fst]
  rfl

/-- **A union on the array is one on the forest.** -/
theorem join_parents (forest : Forest n) (first second : Fin n) :
    join forest.parents first second = Part.some (forest.union first second).parents := by
  have left : (forest.find first).1.val = forest.root first := forest.find_fst first
  have right : ((forest.find first).2.find second).1.val = forest.root second :=
    (find_fst _ second).trans (forest.root_find first second)
  have behind : ((forest.find first).2.find second).2 = forest.compressed first second := rfl
  rw [join, lookUp_parents]
  simp only [Part.bind_eq_bind, Part.bind_some, lookUp_parents, left, right, behind, Fin.val_inj]
  rw [union_eq]
  rcases lt_trichotomy (forest.root first) (forest.root second) with less | same | greater
  · have larger : max (forest.root first).val (forest.root second).val = forest.root second :=
      max_eq_right less.le
    have smaller : min (forest.root first).val (forest.root second).val = forest.root first :=
      min_eq_left less.le
    rw [if_neg less.ne, dif_pos less.le, if_neg less.ne, parents_point]
    simp [larger, smaller, Array.setIfInBounds]
  · rw [if_pos same, dif_pos same.le, if_pos same]
    rfl
  · have larger : max (forest.root first).val (forest.root second).val = forest.root first :=
      max_eq_left greater.le
    have smaller : min (forest.root first).val (forest.root second).val = forest.root second :=
      min_eq_right greater.le
    rw [if_neg greater.ne', dif_neg greater.not_ge, parents_point]
    simp [larger, smaller, Array.setIfInBounds]

/-! ### Any sequence of calls -/

theorem Operation.run_parents (forest : Forest n) (operation : Operation n) :
    operation.run forest.parents = Part.some (operation.perform forest).parents := by
  cases operation with
  | find node => rw [run, lookUp_parents]; rfl
  | union first second => exact forest.join_parents first second

/-- A whole sequence of calls on an array is one on the forest. -/
theorem run_parents (forest : Forest n) (operations : List (Operation n)) :
    operations.foldlM Operation.run forest.parents =
      Part.some (operations.foldl Operation.perform forest).parents := by
  induction operations generalizing forest with
  | nil => rfl
  | cons operation rest ih =>
    rw [List.foldlM_cons, operation.run_parents, Part.bind_eq_bind, Part.bind_some, ih,
      List.foldl_cons]

/-- **Look-ups between the unions change no root.** -/
theorem root_perform {forest other : Forest n} (same : forest.root = other.root)
    (operations : List (Operation n)) :
    (operations.foldl Operation.perform forest).root =
      (other.unionAll (operations.filterMap Operation.link?)).root := by
  induction operations generalizing forest other with
  | nil => exact same
  | cons operation rest ih =>
    cases operation with
    | find node => exact ih ((funext (forest.root_find node)).trans same)
    | union first second =>
      have joined : (forest.union first second).root = (other.union first second).root := by
        funext node
        rw [root_union, root_union, same]
      exact ih joined

/-- Elements have one root exactly if the unions performed connect them. -/
theorem root_perform_eq_iff {operations : List (Operation n)} {one other : Fin n} :
    (operations.foldl Operation.perform (discrete n)).root one =
        (operations.foldl Operation.perform (discrete n)).root other ↔
      EqvGen (fun first second => .union first second ∈ operations) one other := by
  rw [root_perform rfl, root_unionAll_eq_iff]
  simp only [Operation.mem_filterMap_link?]

/-- **After any sequence of look-ups and unions of single elements, both loops end, no parent is greater
than its child, a look-up finds the least element of a class and changes no root, and elements have one
root exactly if the unions performed connect them.** -/
theorem perform_discrete (operations : List (Operation n)) :
    let forest := operations.foldl Operation.perform (discrete n)
    let connected := EqvGen fun first second => .union first second ∈ operations
    operations.foldlM Operation.run (Array.range n) = Part.some forest.parents ∧
      (∀ index (inside : index < forest.parents.size), forest.parents[index] ≤ index) ∧
      ∀ node : Fin n,
        lookUp forest.parents node =
            Part.some ((forest.find node).1.val.val, (forest.find node).2.parents) ∧
          IsLeast {other | connected node other} (forest.find node).1.val ∧
          ∀ other : Fin n,
            climb (forest.find node).2.parents other = climb forest.parents other ∧
              (climb forest.parents node = climb forest.parents other ↔ connected node other) := by
  intro forest connected
  have roots {one other : Fin n} : forest.root one = forest.root other ↔ connected one other :=
    root_perform_eq_iff
  refine ⟨?_, fun _ inside => forest.parents_le inside, fun node => ⟨forest.lookUp_parents node, ?_,
    fun other => ⟨?_, ?_⟩⟩⟩
  · rw [← parents_discrete, run_parents]
  · rw [find_fst]
    exact ⟨roots.1 (forest.root_root node).symm, fun other linked => roots.2 linked ▸ forest.root_le other⟩
  · rw [climb_parents, climb_parents, root_find]
  · rw [climb_parents, climb_parents, Part.some_inj, Fin.val_inj, roots]

end SqlCraft.Forest
