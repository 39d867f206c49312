/-
**What is saved is loaded again.**

A snapshot is written with its names in order, so that entering what is read into a sorted list gives the
same entries. A store in a file holds the indented text of the snapshot; with that the next run starts
from what the last one saved.

* `SortedEntries.ofList_of_ascending` — entries that are sorted stay as they are;
* `Snapshot.denotes` — a snapshot is read back from its document;
* `Store.load_of_save?` — a store gives back what was saved to it;
* `readText_documents` — tables, groups, snapshots and stores together.
-/

import SqlCraft.Migration.Store
import SqlCraft.Proofs.Table.Document

namespace SqlCraft

open Json (Denotes ReadsBack)

/-! ### Sorted entries -/

namespace SortedEntries

variable {α : Type}

/-- An entry whose key is above all others comes last. -/
theorem insert_above {key : String} {value : α} {entries : List (String × α)}
    (above : ∀ entry ∈ entries, entry.1 < key) : insert key value entries = entries ++ [(key, value)] := by
  induction entries with
  | nil => rfl
  | cons first rest ih =>
    obtain ⟨less, later⟩ := List.forall_mem_cons.1 above
    have other : key ≠ first.1 := by
      intro same
      exact String.lt_irrefl key (same ▸ less)
    rw [insert, if_neg other, if_neg (String.lt_asymm less), ih later, List.cons_append]

/-- Entries that are sorted stay as they are. -/
theorem ofList_of_ascending {entries : List (String × α)} (ascending : Ascending entries) :
    ofList entries = entries := by
  -- The entries that are entered already stand before those that are to come.
  suffices general : ∀ sorted : List (String × α), Ascending (sorted ++ entries) →
      entries.foldl (fun sorted entry => insert entry.1 entry.2 sorted) sorted = sorted ++ entries from
    general [] ascending
  clear ascending
  induction entries with
  | nil =>
    intro sorted _
    rw [List.foldl_nil, List.append_nil]
  | cons entry rest ih =>
    intro sorted ascending
    have above : ∀ earlier ∈ sorted, earlier.1 < entry.1 := by
      intro earlier inside
      exact (List.pairwise_append.1 ascending).2.2 earlier inside entry List.mem_cons_self
    have same : sorted ++ entry :: rest = (sorted ++ [entry]) ++ rest := by simp
    rw [same] at ascending ⊢
    rw [List.foldl_cons, insert_above above, ih _ ascending]

end SortedEntries

/-! ### Snapshots and stores -/

/-- **A snapshot is read back from its document.** -/
theorem Snapshot.denotes {room : Nat} {snapshot : Snapshot}
    (readsBack : ∀ value ∈ snapshot.tables.flatMap Table.floats, ReadsBack value) :
    Denotes Snapshot.reader (room + 6) snapshot.toJson snapshot := by
  have each : ∀ entry ∈ snapshot.entries, Denotes Table.reader (room + 5) entry.2.toJson entry.2 := by
    intro entry inside
    refine Table.denotes fun value held => readsBack value ?_
    exact List.mem_flatMap.2 ⟨entry.2, List.mem_map_of_mem inside, held⟩
  have same : ofList snapshot.entries = snapshot := by
    obtain ⟨entries, ascending⟩ := snapshot
    simp only [ofList, SortedEntries.ofList_of_ascending ascending]
  exact (Denotes.entries each).map same

/-- **A store gives back the snapshot that was saved to it.** -/
theorem Store.load_of_save? {snapshot : Snapshot}
    (readsBack : ∀ value ∈ snapshot.tables.flatMap Table.floats, ReadsBack value) {store saved : Store}
    (succeeds : store.save? snapshot = some saved) : saved.load = snapshot := by
  cases store with
  | memory _ =>
    cases succeeds
    rfl
  | file _ =>
    cases succeeds
    have denotes : Denotes Snapshot.reader 6 snapshot.toJson snapshot := Snapshot.denotes readsBack
    have read := denotes.readText (by decide) _ (List.mem_cons_of_mem _ List.mem_cons_self)
    rw [load, Snapshot.ofText, read]
  | unwritable => cases succeeds

/-! ### All documents -/

/-- **Documents read back.** A table, groups of tables and a snapshot are each read back from their compact
and from their indented text, and what was saved to a store is loaded from it, if the doubles among the
defaults are read back from their texts, which makes them finite. -/
theorem readText_documents :
    (∀ table : Table, (∀ value ∈ table.floats, ReadsBack value) →
      ∀ text ∈ [table.toJson.compact, table.toJson.pretty], Json.readText Table.reader text = .ok table) ∧
    (∀ groups : List TableGroup, (∀ value ∈ groups.flatten.flatMap Table.floats, ReadsBack value) →
      ∀ text ∈ [(Table.groupsToJson groups).compact, (Table.groupsToJson groups).pretty],
        Json.readText Table.groupsReader text = .ok groups) ∧
    (∀ snapshot : Snapshot, (∀ value ∈ snapshot.tables.flatMap Table.floats, ReadsBack value) →
      (∀ text ∈ [snapshot.toJson.compact, snapshot.toJson.pretty],
        Json.readText Snapshot.reader text = .ok snapshot) ∧
      ∀ store saved : Store, store.save? snapshot = some saved → saved.load = snapshot) := by
  refine ⟨fun table readsBack => ?_, fun groups readsBack => ?_, fun snapshot readsBack => ⟨?_, ?_⟩⟩
  · have denotes : Denotes Table.reader 5 table.toJson table := Table.denotes readsBack
    exact denotes.readText (by decide)
  · have denotes : Denotes Table.groupsReader 7 (Table.groupsToJson groups) groups := by
      refine Table.denotes_groups fun group among table inside value held => readsBack value ?_
      exact List.mem_flatMap.2 ⟨table, List.mem_flatten.2 ⟨group, among, inside⟩, held⟩
    exact denotes.readText (by decide)
  · have denotes : Denotes Snapshot.reader 6 snapshot.toJson snapshot := Snapshot.denotes readsBack
    exact denotes.readText (by decide)
  · intro store saved succeeds
    exact Store.load_of_save? readsBack succeeds

/-- All kinds of defaults and keys, and names that have to be escaped. -/
theorem readText_documents_orders :
    let orders : Table := ⟨"orders \"\x01\" 😀", [
      { name := "id", type := .bigint, size := some 20, notNull := true, primaryKey := true,
        unsigned := true, autoIncrement := true, defaultValue := some .null },
      { name := "back\\slash", type := .decimal, defaultValue := some (.float 0.5),
        index := some (.composite ["paid", "id"] (-3)), unique := some .single },
      { name := "paid", type := .tinyint, boolean := true, defaultValue := some (.bool false),
        comment := some "one line\nand another" },
      { name := "", type := .int, defaultValue := some (.integer (-9)),
        foreignKey := some ⟨"customers", "id", some "by", some .setNull, none⟩ },
      { name := "at", type := .datetime, defaultValue := some (.expression "NOW()") },
      { name := "note", type := .text, defaultValue := some (.string "it\x27s new"),
        unique := some (.composite [] 2) }]⟩
    let snapshot : Snapshot := .ofList [("orders", orders), ("none", ⟨"", []⟩)]
    orders.floats = [0.5] ∧ snapshot.tables.flatMap Table.floats = [0.5] ∧ ReadsBack 0.5 ∧
    Json.readText Table.reader orders.toJson.compact = .ok orders ∧
    Json.readText Table.groupsReader (Table.groupsToJson [[orders], []]).pretty = .ok [[orders], []] ∧
    Json.readText Snapshot.reader snapshot.toJson.compact = .ok snapshot ∧
    ∃ saved, (Store.file none).save? snapshot = some saved ∧ saved.load = snapshot := by
  intro orders snapshot
  have half : ReadsBack 0.5 := by decide +kernel
  have readsBack {floats : List Float} (same : floats = [0.5]) : ∀ value ∈ floats, ReadsBack value :=
    same ▸ List.forall_mem_singleton.2 half
  have held : snapshot.tables.flatMap Table.floats = [0.5] := by decide +kernel
  obtain ⟨table, groups, both⟩ := readText_documents
  obtain ⟨whole, stored⟩ := both snapshot (readsBack held)
  refine ⟨rfl, held, half, ?_, ?_, ?_, _, rfl, stored (.file none) _ rfl⟩
  · exact table orders (readsBack rfl) _ List.mem_cons_self
  · exact groups [[orders], []] (readsBack rfl) _ (List.mem_cons_of_mem _ List.mem_cons_self)
  · exact whole _ List.mem_cons_self

end SqlCraft
