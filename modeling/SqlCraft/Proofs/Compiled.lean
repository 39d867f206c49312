/-
**Steps that may refuse their input.**

Compiling is a sequence of steps that each give a result or an error. Four things are needed of such
sequences:

* `bind_eq_ok`, `map_eq_ok`, `mapM_eq_ok` — if all succeeds, each step did;
* `bind_commutes`, `map_bind_commutes`, `mapM_commutes` — steps that agree up to a change of what they
  take and give agree as sequences, in their errors as well;
* `foldlM_eq_map` — a loop that collects what its steps give collects what they give all together;
* `Judged` — a step fails with the first of the offences that are listed for it. The offences of a
  sequence are those of its steps, one behind the other.
-/

import Mathlib.Data.List.Forall2
import SqlCraft.CompileError

namespace SqlCraft

/-! ### Inversion -/

/-- A step and what follows it. -/
theorem bind_eq_ok {α β : Type} {step : Compiled α} {next : α → Compiled β} {result : β}
    (succeeds : (step >>= next) = .ok result) :
    ∃ value, step = .ok value ∧ next value = .ok result := by
  cases step with
  | error cause => cases succeeds
  | ok value => exact ⟨value, rfl, succeeds⟩

/-- What is made of the result of a step. -/
theorem map_eq_ok {α β : Type} {step : Compiled α} {next : α → β} {result : β}
    (succeeds : step.map next = .ok result) : ∃ value, step = .ok value ∧ next value = result := by
  cases step with
  | error cause => cases succeeds
  | ok value => exact ⟨value, rfl, Except.ok.inj succeeds⟩

/-- A step for each element of a list. -/
theorem mapM_eq_ok {α β : Type} {step : α → Compiled β} {list : List α} {results : List β}
    (succeeds : list.mapM step = .ok results) :
    List.Forall₂ (fun element result => step element = .ok result) list results := by
  induction list generalizing results with
  | nil =>
    cases succeeds
    exact .nil
  | cons element rest ih =>
    rw [List.mapM_cons] at succeeds
    obtain ⟨result, here, succeeds⟩ := bind_eq_ok succeeds
    obtain ⟨others, later, succeeds⟩ := bind_eq_ok succeeds
    cases succeeds
    exact .cons here (ih later)

/-- Steps of which each can only give one result. -/
theorem mapM_eq_map {α β : Type} {step : α → Compiled β} {view : α → β} {list : List α}
    {results : List β} (succeeds : list.mapM step = .ok results)
    (each : ∀ element result, step element = .ok result → result = view element) :
    results = list.map view := by
  have ran := mapM_eq_ok succeeds
  clear succeeds
  induction ran with
  | nil => rfl
  | cons here _ ih => rw [List.map_cons, each _ _ here, ih]

/-- A member of a list has a partner in a related one. -/
theorem exists_of_forall₂ {α β : Type} {related : α → β → Prop} {left : List α} {right : List β}
    (lists : List.Forall₂ related left right) {member : β} (inside : member ∈ right) :
    ∃ partner ∈ left, related partner member := by
  induction lists with
  | nil => exact absurd inside List.not_mem_nil
  | @cons first second left right here _ ih =>
    rcases List.mem_cons.1 inside with rfl | later
    · exact ⟨first, List.mem_cons_self, here⟩
    · obtain ⟨partner, among, holds⟩ := ih later
      exact ⟨partner, List.mem_cons_of_mem _ among, holds⟩

/-! ### Changes -/

/-- A step, and two ways to go on that agree up to a change. -/
theorem bind_commutes {α β γ : Type} {step : Compiled α} {next : α → Compiled β}
    {other : α → Compiled γ} {behind : β → γ}
    (each : ∀ result, other result = (next result).map behind) :
    (step >>= other) = (step >>= next).map behind := by
  cases step with
  | error cause => rfl
  | ok result => exact each result

/-- The same where the result of the step is changed, too. -/
theorem map_bind_commutes {α β γ δ : Type} {step : Compiled α} {between : α → β}
    {next : α → Compiled γ} {other : β → Compiled δ} {behind : γ → δ}
    (each : ∀ result, other (between result) = (next result).map behind) :
    (step.map between >>= other) = (step >>= next).map behind := by
  cases step with
  | error cause => rfl
  | ok result => exact each result

/-- Steps that agree up to changes of what they take and give, for each element of a list. -/
theorem mapM_commutes {α β γ δ : Type} {step : α → Compiled β} {other : γ → Compiled δ}
    {before : α → γ} {behind : β → δ} (list : List α)
    (each : ∀ element, other (before element) = (step element).map behind) :
    (list.map before).mapM other = (list.mapM step).map (List.map behind) := by
  induction list with
  | nil => rfl
  | cons element rest ih =>
    rw [List.map_cons, List.mapM_cons, List.mapM_cons, each, ih]
    exact map_bind_commutes fun result => map_bind_commutes fun results => rfl

/-- A loop whose turns each make a step and put what it gives to a state. -/
theorem foldlM_eq_map {α β γ : Type} {step : α → Compiled β} {turn : γ → α → Compiled γ}
    {put : γ → β → γ} (each : ∀ state element, turn state element = (step element).map (put state))
    (list : List α) (state : γ) :
    list.foldlM turn state = (list.mapM step).map fun results => results.foldl put state := by
  induction list generalizing state with
  | nil => rfl
  | cons element rest ih =>
    rw [List.foldlM_cons, List.mapM_cons, each]
    exact map_bind_commutes fun result => (ih _).trans (by cases rest.mapM step <;> rfl)

/-! ### Offences -/

/-- A step fails with the first of some offences, and succeeds if there are none. -/
inductive Judged {α : Type} (step : Compiled α) : List CompileError → Prop where
  | passed (result : α) : step = .ok result → Judged step []
  | refused (cause : CompileError) (further : List CompileError) :
      step = .error cause → Judged step (cause :: further)

namespace Judged

variable {α β : Type} {step : Compiled α} {offences others : List CompileError}

theorem ok_iff (judged : Judged step offences) : (∃ result, step = .ok result) ↔ offences = [] := by
  cases judged with
  | passed result ran => exact ⟨fun _ => rfl, fun _ => ⟨result, ran⟩⟩
  | refused cause further ran => simp [ran]

/-- **The error is the first offence.** -/
theorem error_iff (judged : Judged step offences) (cause : CompileError) :
    step = .error cause ↔ offences.head? = some cause := by
  cases judged with
  | passed result ran => simp [ran]
  | refused first further ran => simp [ran]

/-- A step that succeeds, and what follows it. -/
theorem bind {next : α → Compiled β} (first : Judged step offences)
    (later : ∀ result, step = .ok result → Judged (next result) others) :
    Judged (step >>= next) (offences ++ others) := by
  cases first with
  | passed result ran =>
    have judged := later result ran
    rw [ran]
    exact judged
  | refused cause further ran =>
    rw [ran]
    exact .refused cause _ rfl

theorem map (judged : Judged step offences) (next : α → β) : Judged (step.map next) offences := by
  cases judged with
  | passed result ran =>
    rw [ran]
    exact .passed (next result) rfl
  | refused cause further ran =>
    rw [ran]
    exact .refused cause further rfl

/-- A refusal on a condition, and what follows it otherwise. -/
theorem guard {condition : Prop} [Decidable condition] {refusal : Compiled α} {cause : CompileError}
    (refuses : refusal = .error cause) (later : ¬ condition → Judged step offences) :
    Judged (if condition then refusal else step)
      ((if condition then [cause] else []) ++ offences) := by
  by_cases met : condition
  · rw [if_pos met, if_pos met]
    exact .refused cause _ refuses
  · rw [if_neg met, if_neg met]
    exact later met

/-- A step for each element of a list. -/
theorem mapM {step : α → Compiled β} {offences : α → List CompileError} (list : List α)
    (each : ∀ element ∈ list, Judged (step element) (offences element)) :
    Judged (list.mapM step) (list.flatMap offences) := by
  induction list with
  | nil => exact .passed [] rfl
  | cons element rest ih =>
    obtain ⟨first, later⟩ := List.forall_mem_cons.1 each
    rw [List.mapM_cons, List.flatMap_cons]
    refine first.bind fun result _ => ?_
    rw [← List.append_nil (rest.flatMap offences)]
    exact (ih later).bind fun results _ => .passed (result :: results) rfl

/-- A step for each element of a list, without results. -/
theorem forM {step : α → Compiled Unit} {offences : α → List CompileError} (list : List α)
    (each : ∀ element, Judged (step element) (offences element)) :
    Judged (list.forM step) (list.flatMap offences) := by
  induction list with
  | nil => exact .passed () rfl
  | cons element rest ih => exact (each element).bind fun _ _ => ih

end Judged

/-- What is wrong with naming a field of a table, if anything. -/
def Table.fieldOffences (table : Table) (field : String) : List CompileError :=
  if table.declares field then [] else [.unknownField table.name field]

theorem Table.fieldOffences_eq_nil_iff {table : Table} {field : String} :
    table.fieldOffences field = [] ↔ table.declares field := by
  simp [fieldOffences]

theorem Table.flatMap_fieldOffences_eq_nil_iff {table : Table} {fields : List String} :
    fields.flatMap table.fieldOffences = [] ↔ ∀ field ∈ fields, table.declares field := by
  simp only [List.flatMap_eq_nil_iff, fieldOffences_eq_nil_iff]

theorem Table.require_judged (table : Table) (field : String) :
    Judged (table.require field) (table.fieldOffences field) := by
  unfold require fieldOffences
  split
  · exact .passed () rfl
  · exact .refused _ [] rfl

end SqlCraft
