/-
**Names in the order of their first mention.**

Of names that are mentioned one after another, each first mention is kept. One more mention adds the name at
the end if it is new and changes nothing otherwise. Items that are grouped by the names that are left are
grouped without loss.

* `eraseDups_append_singleton` — what one more mention adds;
* `pairwise_idxOf_eraseDups`, `nodup_eraseDups` — the names that are left stand in the order of their first
  mention, and none twice;
* `flatMap_filter_perm` — grouped items.
-/

import Mathlib.Data.List.Induction
import Mathlib.Data.List.Perm.Basic

namespace SqlCraft

/-- One more name is one more at the end, unless it is there. -/
theorem eraseDups_append_singleton (names : List String) (name : String) :
    (names ++ [name]).eraseDups =
      if name ∈ names.eraseDups then names.eraseDups else names.eraseDups ++ [name] := by
  rw [List.eraseDups_append]
  by_cases inside : name ∈ names <;> simp [List.removeAll, List.eraseDups_cons, inside]

/-- **Names without repetitions stand in the order of their first mention.** -/
theorem pairwise_idxOf_eraseDups (names : List String) :
    names.eraseDups.Pairwise fun first second => names.idxOf first < names.idxOf second := by
  -- One more name at the end changes the place of none, and is new or leaves the list as it was.
  induction names using List.reverseRecOn with
  | nil => exact .nil
  | append_singleton names last ih =>
    have place : ∀ name ∈ names.eraseDups, (names ++ [last]).idxOf name = names.idxOf name :=
      fun name mentioned => List.idxOf_append_of_mem (List.mem_eraseDups.1 mentioned)
    have kept : names.eraseDups.Pairwise fun first second =>
        (names ++ [last]).idxOf first < (names ++ [last]).idxOf second :=
      ih.imp_of_mem fun one other before => by
        rw [place _ one, place _ other]
        exact before
    rw [eraseDups_append_singleton]
    by_cases known : last ∈ names.eraseDups
    · rw [if_pos known]
      exact kept
    · have new : last ∉ names := fun inside => known (List.mem_eraseDups.2 inside)
      rw [if_neg known, List.pairwise_append]
      refine ⟨kept, List.pairwise_singleton _ _, fun name mentioned added behind => ?_⟩
      rw [List.mem_singleton.1 behind, place name mentioned, List.idxOf_append_of_notMem new]
      exact Nat.lt_of_lt_of_le
        (List.idxOf_lt_length_of_mem (List.mem_eraseDups.1 mentioned)) (Nat.le_add_right _ _)

theorem nodup_eraseDups (names : List String) : names.eraseDups.Nodup :=
  (pairwise_idxOf_eraseDups names).imp fun before => ne_of_apply_ne names.idxOf (Nat.ne_of_lt before)

/-- Grouped by distinct keys that cover them, items are neither lost nor doubled. -/
theorem flatMap_filter_perm {α : Type} {keys : List String} (nodup : keys.Nodup)
    {items : List (String × α)} (covered : ∀ item ∈ items, item.1 ∈ keys) :
    (keys.flatMap fun key => items.filter fun item => item.1 == key).Perm items := by
  induction keys generalizing items with
  | nil =>
    cases items with
    | nil => exact .nil
    | cons item rest => exact absurd (covered item List.mem_cons_self) List.not_mem_nil
  | cons key rest ih =>
    obtain ⟨new, nodup⟩ := List.nodup_cons.1 nodup
    -- The other keys find their items among those that do not have this one.
    have apart : (rest.flatMap fun other => items.filter fun item => item.1 == other) =
        rest.flatMap fun other =>
          (items.filter fun item => !item.1 == key).filter fun item => item.1 == other := by
      refine List.flatMap_congr fun other inside => ?_
      rw [List.filter_filter]
      refine List.filter_congr fun item _ => ?_
      have distinct : item.1 = other → item.1 ≠ key := fun same equal => new (equal ▸ same ▸ inside)
      grind
    rw [List.flatMap_cons, apart]
    refine ((ih nodup fun item left => ?_).append_left _).trans (List.filter_append_perm _ items)
    obtain ⟨inside, other⟩ := List.mem_filter.1 left
    exact (List.mem_cons.1 (covered item inside)).resolve_left (by simpa using other)

end SqlCraft
