/-
**Entries sorted by key.**

A list of keys with values whose keys ascend, by code point. `SortedEntries.insert` keeps the order
and replaces the value of a key that is there.

* `ascending_insert` — the keys still ascend;
* `lookup_insert` — the values after an insertion.
-/

namespace SqlCraft.SortedEntries

variable {α : Type}

/-- The keys ascend. -/
def Ascending (entries : List (String × α)) : Prop :=
  entries.Pairwise fun left right => left.1 < right.1

/-- The entries with one key set. -/
def insert (key : String) (value : α) : List (String × α) → List (String × α)
  | [] => [(key, value)]
  | (first, held) :: rest =>
    if key = first then (key, value) :: rest
    else if key < first then (key, value) :: (first, held) :: rest
    else (first, held) :: insert key value rest

/-- The entries that result from setting keys one after another. -/
def ofList (entries : List (String × α)) : List (String × α) :=
  entries.foldl (fun sorted entry => insert entry.1 entry.2 sorted) []

theorem mem_of_mem_insert {key : String} {value : α} {entries : List (String × α)}
    {entry : String × α} (inside : entry ∈ insert key value entries) :
    entry = (key, value) ∨ entry ∈ entries := by
  induction entries with
  | nil => exact .inl (List.mem_singleton.1 inside)
  | cons first rest ih =>
    obtain ⟨name, held⟩ := first
    unfold insert at inside
    split at inside
    · rcases List.mem_cons.1 inside with same | later
      · exact .inl same
      · exact .inr (List.mem_cons_of_mem _ later)
    · split at inside
      · exact List.mem_cons.1 inside
      · rcases List.mem_cons.1 inside with same | later
        · exact .inr (same ▸ List.mem_cons_self)
        · exact (ih later).imp id (List.mem_cons_of_mem _)

theorem ascending_insert {key : String} {value : α} {entries : List (String × α)}
    (ascending : Ascending entries) : Ascending (insert key value entries) := by
  induction entries with
  | nil => exact List.pairwise_singleton _ _
  | cons first rest ih =>
    obtain ⟨name, held⟩ := first
    obtain ⟨above, tail⟩ := List.pairwise_cons.1 ascending
    unfold insert
    split
    · rename_i same
      exact List.pairwise_cons.2 ⟨fun entry inside => same ▸ above entry inside, tail⟩
    · split
      · rename_i less
        refine List.pairwise_cons.2 ⟨fun entry inside => ?_, ascending⟩
        rcases List.mem_cons.1 inside with same | later
        · exact same ▸ less
        · exact String.lt_trans less (above entry later)
      · rename_i differ notLess
        refine List.pairwise_cons.2 ⟨fun entry inside => ?_, ih tail⟩
        rcases mem_of_mem_insert inside with same | later
        · exact same ▸ Std.lt_of_le_of_ne (String.not_lt.1 notLess) (Ne.symm differ)
        · exact above entry later

theorem ascending_ofList (entries : List (String × α)) : Ascending (ofList entries) := by
  suffices general : ∀ sorted : List (String × α), Ascending sorted →
      Ascending (entries.foldl (fun sorted entry => insert entry.1 entry.2 sorted) sorted) from
    general [] List.Pairwise.nil
  induction entries with
  | nil => exact fun _ ascending => ascending
  | cons entry rest ih => exact fun _ ascending => ih _ (ascending_insert ascending)

theorem lookup_insert (key name : String) (value : α) (entries : List (String × α)) :
    (insert key value entries).lookup name =
      if name = key then some value else entries.lookup name := by
  induction entries with
  | nil =>
    by_cases h : name = key
    · simp [insert, h]
    · simp [insert, List.lookup_cons, h, beq_false_of_ne h]
  | cons first rest ih =>
    obtain ⟨held, old⟩ := first
    by_cases h : name = key
    · subst h
      unfold insert
      split
      · simp
      · split
        · simp
        · rename_i differ _
          simp [List.lookup_cons, beq_false_of_ne differ, ih]
    · unfold insert
      split
      · rename_i same
        subst same
        simp [List.lookup_cons, beq_false_of_ne h]
      · split
        · simp [List.lookup_cons, beq_false_of_ne h]
        · simp [List.lookup_cons, h, ih]

end SqlCraft.SortedEntries
