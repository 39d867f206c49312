/-
**Grants: which statements of a run were granted.**

A statement is told by its place among those of the run, since one text may be tried more than once. A
phase makes one call for each of its items, or two for each table that is rebuilt, so the items that it
keeps are those whose call was granted at its place:

* `Database.grantsAt` — whether the call at a place was granted;
* `grantedItems` — the items of a list for which a call was granted;
* `performEach_calls`, `rebuild_calls` — the calls of a phase, and the items that it keeps;
* `rebuildGroup_calls`, `runGroup_calls` — the calls of all phases, and so of a group.
-/

import Mathlib.Data.List.Basic
import SqlCraft.Proofs.Migration.Trace

namespace SqlCraft

namespace Database

variable (database : Database)

/-- Whether the call at a place among calls made behind a history was granted. -/
def grantsAt (history : History) (calls : List Call) (place : Nat) : Bool :=
  match calls[place]? with
  | some call => (database.answer (history ++ calls.take place) call).isOk
  | none => false

@[simp] theorem grantsAt_zero (history : History) (call : Call) (calls : List Call) :
    database.grantsAt history (call :: calls) 0 = (database.answer history call).isOk := by
  simp [grantsAt]

@[simp] theorem grantsAt_succ (history : History) (call : Call) (calls : List Call) (place : Nat) :
    database.grantsAt history (call :: calls) (place + 1) =
      database.grantsAt (history ++ [call]) calls place := by
  simp [grantsAt]

/-- Later calls do not change what was granted. -/
theorem grantsAt_append_left (history : History) {first : List Call} (later : List Call) {place : Nat}
    (within : place < first.length) :
    database.grantsAt history (first ++ later) place = database.grantsAt history first place := by
  rw [grantsAt, grantsAt, List.getElem?_append_left within,
    List.take_append_of_le_length (Nat.le_of_lt within)]

theorem grantsAt_append_right (history : History) (first later : List Call) (place : Nat) :
    database.grantsAt history (first ++ later) (first.length + place) =
      database.grantsAt (history ++ first) later place := by
  rw [grantsAt, grantsAt, List.getElem?_append_right (Nat.le_add_right _ _), List.take_length_add_append,
    Nat.add_sub_cancel_left, List.append_assoc]

/-- A step is granted if its call is. -/
theorem isNone_refusal? (history : History) (step : Step) :
    (database.refusal? history step).isNone = (database.answer history step.call).isOk := by
  rw [refusal?]
  cases database.answer history step.call <;> rfl

end Database

namespace Migration

/-- The items of a list for which a call was granted, where `granted` tells it for every index. -/
def grantedItems {α : Type} (granted : Nat → Bool) (items : List α) : List α :=
  (items.zipIdx.filter fun entry => granted entry.2).map Prod.fst

theorem grantedItems_cons {α : Type} (granted : Nat → Bool) (item : α) (rest : List α) :
    grantedItems granted (item :: rest) =
      if granted 0 then item :: grantedItems (fun index => granted (index + 1)) rest
      else grantedItems (fun index => granted (index + 1)) rest := by
  have later : ((rest.zipIdx 1).filter fun entry => granted entry.2).map Prod.fst =
      grantedItems (fun index => granted (index + 1)) rest := by
    rw [grantedItems, List.zipIdx_succ, List.filter_map, List.map_map]
    rfl
  rw [grantedItems, List.zipIdx_cons, Nat.zero_add, List.filter_cons, ← later]
  cases granted 0 <;> rfl

theorem grantedItems_congr {α : Type} {granted others : Nat → Bool} {items : List α}
    (same : ∀ index < items.length, granted index = others index) :
    grantedItems granted items = grantedItems others items := by
  refine congrArg (List.map Prod.fst) (List.filter_congr fun entry inside => ?_)
  exact same entry.2 (by simpa using List.snd_lt_of_mem_zipIdx inside)

section Phases

variable (database : Database)

/-- A phase makes the call of every item, and keeps those items whose call was granted. -/
theorem performEach_calls {α : Type} (step : α → Step) (items : List α) (history : History) :
    (performEach (some database) step items history).1.2 =
        grantedItems (database.grantsAt history (items.map fun item => (step item).call)) items ∧
      (performEach (some database) step items history).2 =
        history ++ items.map fun item => (step item).call := by
  induction items generalizing history with
  | nil => exact ⟨rfl, (List.append_nil history).symm⟩
  | cons item rest ih =>
    obtain ⟨kept, after⟩ := ih (history ++ [(step item).call])
    simp only [performEach, Session.bind_apply, perform_eq, attempt, Session.pure_apply,
      Database.isNone_refusal?, kept, after]
    rw [List.map_cons, grantedItems_cons]
    simp

/-- The steps of rebuilding tables: two for each. -/
def rebuildSteps (snapshot : Snapshot) (tables : List Table) : List Step :=
  tables.flatMap fun table => [dropStep snapshot table, createStep table]

theorem length_rebuildSteps (snapshot : Snapshot) (tables : List Table) :
    (rebuildSteps snapshot tables).length = 2 * tables.length := by
  simp [rebuildSteps, Nat.mul_comm]

/-- Rebuilding creates those tables whose second call was granted. -/
theorem rebuild_calls (snapshot : Snapshot) (tables : List Table) (history : History) :
    (rebuild (some database) snapshot tables history).1.2 =
        grantedItems (fun index => database.grantsAt history
          ((rebuildSteps snapshot tables).map Step.call) (2 * index + 1)) tables ∧
      (rebuild (some database) snapshot tables history).2 =
        history ++ (rebuildSteps snapshot tables).map Step.call := by
  induction tables generalizing history with
  | nil => exact ⟨rfl, (List.append_nil history).symm⟩
  | cons table rest ih =>
    obtain ⟨created, after⟩ := ih (history ++ [(dropStep snapshot table).call] ++ [(createStep table).call])
    simp only [rebuild, Session.bind_apply, perform_eq, attempt, Session.pure_apply,
      Database.isNone_refusal?, created, after]
    rw [grantedItems_cons]
    simp [rebuildSteps, Nat.mul_add]

/-- The steps of a group, if some tables are created and some keys of other tables were dropped. -/
def groupSteps (snapshot : Snapshot) (changed created : List Table) (detached : List HeldKey) :
    List Step :=
  ownKeySteps snapshot changed ++ ((inboundKeys snapshot changed).map HeldKey.dropStep ++
    (rebuildSteps snapshot changed ++ (linkSteps created ++ detached.map HeldKey.createStep)))

theorem performAll_calls (steps : List Step) (history : History) :
    (performAll (some database) steps history).2 = history ++ steps.map Step.call := by
  rw [performAll_apply]
  exact (performEach_calls database id steps history).2

/-- Which calls were granted in the first phases decides which tables are created and which keys are
added again, and so the calls of the others. -/
theorem rebuildGroup_calls (snapshot : Snapshot) (changed : List Table) (history : History) :
    ∃ created detached calls,
      calls = (groupSteps snapshot changed created detached).map Step.call ∧
      (rebuildGroup (some database) snapshot changed history).2 = history ++ calls ∧
      detached = grantedItems (fun index => database.grantsAt history calls
        ((ownKeySteps snapshot changed).length + index)) (inboundKeys snapshot changed) ∧
      created = grantedItems (fun index => database.grantsAt history calls
        ((ownKeySteps snapshot changed).length +
          ((inboundKeys snapshot changed).length + (2 * index + 1)))) changed ∧
      (changed = [] → calls = []) := by
  let own := (ownKeySteps snapshot changed).map Step.call
  let inbound := (inboundKeys snapshot changed).map fun held => held.dropStep.call
  let rebuilding := (rebuildSteps snapshot changed).map Step.call
  let detached := grantedItems (database.grantsAt (history ++ own) inbound)
    (inboundKeys snapshot changed)
  let created := grantedItems (fun index =>
    database.grantsAt (history ++ own ++ inbound) rebuilding (2 * index + 1)) changed
  let linking := (linkSteps created).map Step.call
  let attaching := (detached.map HeldKey.createStep).map Step.call
  have ran : (rebuildGroup (some database) snapshot changed history).2 =
      history ++ own ++ inbound ++ rebuilding ++ linking ++ attaching := by
    obtain ⟨kept, detaches⟩ := performEach_calls database HeldKey.dropStep
      (inboundKeys snapshot changed) (history ++ own)
    obtain ⟨made, rebuilds⟩ := rebuild_calls database snapshot changed (history ++ own ++ inbound)
    simp only [rebuildGroup, Session.bind_apply, Session.pure_apply, performAll_calls]
    rw [detaches, kept, rebuilds, made]
  have calls : (groupSteps snapshot changed created detached).map Step.call =
      own ++ (inbound ++ (rebuilding ++ (linking ++ attaching))) := by
    simp [groupSteps, own, inbound, rebuilding, linking, attaching, HeldKey.dropStep]
  refine ⟨created, detached, _, calls.symm, by rw [ran]; simp only [List.append_assoc], ?_, ?_, ?_⟩
  · refine grantedItems_congr fun index within => ?_
    have among : index < inbound.length := by simpa [inbound] using within
    have start : (ownKeySteps snapshot changed).length = own.length := by simp [own]
    rw [start, Database.grantsAt_append_right, Database.grantsAt_append_left _ _ _ among]
  · refine grantedItems_congr fun index within => ?_
    have among : 2 * index + 1 < rebuilding.length := by
      have count : rebuilding.length = 2 * changed.length := by
        rw [List.length_map, length_rebuildSteps]
      omega
    have first : (ownKeySteps snapshot changed).length = own.length := by simp [own]
    have second : (inboundKeys snapshot changed).length = inbound.length := by simp [inbound]
    rw [first, second, Database.grantsAt_append_right, Database.grantsAt_append_right,
      Database.grantsAt_append_left _ _ _ among]
  · rintro rfl
    simp [own, inbound, rebuilding, linking, attaching, created, detached, ownKeySteps, inboundKeys_nil,
      rebuildSteps, linkSteps, grantedItems]

/-- **The calls of a group are those of rebuilding its changed tables.** -/
theorem runGroup_calls (group : TableGroup) (snapshot : Snapshot) (history : History) :
    (runGroup (some database) group snapshot history).2 =
      (rebuildGroup (some database) snapshot (changedTables snapshot group) history).2 := by
  rw [runGroup, ← changedTables]
  cases changedTables snapshot group with
  | nil =>
    obtain ⟨-, -, calls, -, ran, -, -, idle⟩ := rebuildGroup_calls database snapshot [] history
    rw [ran, idle rfl, List.append_nil]
    rfl
  | cons table rest => rfl

end Phases

end Migration

end SqlCraft
