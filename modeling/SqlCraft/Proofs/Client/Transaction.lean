/-
**Plans are run completely or not at all.**

A plan is run in a transaction of its own, statement by statement up to the first that is refused.
The transaction is closed by one call, and only if everything before it was granted does that call ask
for a commit. So whatever a database refuses, what can be seen from outside of transactions is
changed by the whole plan or by nothing.

* `runStatements_eq` — the statements of a plan, up to the first that is refused;
* `Transacted` — the calls of a run, from the first to the one that closes the transaction;
* `Transacted.unseen` — a run with a refusal leaves what can be seen as it was;
* `run_all_or_nothing` — the calls of a run, its outcome, and what can be seen behind it.
-/

import SqlCraft.Client
import SqlCraft.Proofs.Session

namespace SqlCraft

open Sql (Statement)

/-- What can be seen of a database changes only by statements outside of transactions and by commits
that are granted. -/
def Database.Isolates {State : Type} (database : Database) (visible : History → State) : Prop :=
  ∀ history call, (∀ statement, call ≠ .execute statement) →
    (∀ number rows, call = .commit number → database.answer history call ≠ .ok rows) →
    visible (history ++ [call]) = visible history

namespace Client

/-- The calls that make statements inside a transaction. -/
def writes (number : Nat) (statements : List Statement) : List Call :=
  statements.map fun statement => .executeIn number statement.expand

/-- How statements are worked off in a transaction: all of them if none is refused, and otherwise those
up to the first that is. -/
theorem runStatements_eq (database : Database) (number count : Nat) (statements : List Statement)
    (history : History) :
    (database.refused history (writes number statements) = [] ∧
      runStatements database number count statements history =
        (.ok (count + statements.length), history ++ writes number statements)) ∨
    ∃ done stopped left reason, statements = done ++ stopped :: left ∧
      database.refused history (writes number done) = [] ∧
      database.answer (history ++ writes number done) (.executeIn number stopped.expand) =
        .error reason ∧
      runStatements database number count statements history =
        (.error (.execution reason), history ++ writes number (done ++ [stopped])) := by
  induction statements generalizing count history with
  | nil => exact .inl ⟨rfl, by simp [runStatements, writes, Session.pure_apply]⟩
  | cons statement rest ih =>
    have asked : queryIn database number statement.expand history =
        (outcome (database.answer history (.executeIn number statement.expand)),
          history ++ [.executeIn number statement.expand]) := rfl
    cases answer : database.answer history (.executeIn number statement.expand) with
    | error reason =>
      refine .inr ⟨[], statement, rest, reason, rfl, rfl, ?_, ?_⟩
      · rw [writes, List.map_nil, List.append_nil, answer]
      · rw [runStatements, Session.bind_apply, asked, answer]
        rfl
    | ok rows =>
      have first : runStatements database number count (statement :: rest) history =
          runStatements database number (count + 1) rest
            (history ++ [.executeIn number statement.expand]) := by
        rw [runStatements, Session.bind_apply, asked, answer]
        rfl
      have granted (others : List Statement) :
          database.refused history (writes number (statement :: others)) =
            database.refused (history ++ [.executeIn number statement.expand])
              (writes number others) := by
        rw [writes, List.map_cons, Database.refused, answer]
        rfl
      have longer (others : List Statement) :
          history ++ [.executeIn number statement.expand] ++ writes number others =
            history ++ writes number (statement :: others) := List.append_assoc _ _ _
      rcases ih (count + 1) (history ++ [.executeIn number statement.expand]) with
        ⟨all, ran⟩ | ⟨done, stopped, left, reason, rfl, all, refused, ran⟩
      · refine .inl ⟨(granted rest).trans all, ?_⟩
        rw [first, ran, longer, List.length_cons, Nat.add_right_comm, Nat.add_assoc]
      · refine .inr ⟨statement :: done, stopped, left, reason, rfl, (granted done).trans all, ?_, ?_⟩
        · rwa [← longer]
        · rw [first, ran, longer]
          rfl

/-! ### The calls of a run -/

/-- The number of a transaction that is opened behind a history. -/
def nextNumber (history : History) : Nat := History.transactions (history ++ [.begin])

/-- The calls by which statements are run in a transaction of their own behind a history. -/
inductive Transacted (database : Database) (history : History) (statements : List Statement) :
    List Call → Prop where
  /-- The transaction was refused. -/
  | unopened {reason : String} (refused : database.answer history .begin = .error reason) :
      Transacted database history statements [.begin]
  /-- Everything was granted, and a commit was asked for. -/
  | completed
      (granted : database.refused history (.begin :: writes (nextNumber history) statements) = []) :
      Transacted database history statements
        (.begin :: writes (nextNumber history) statements ++ [.commit (nextNumber history)])
  /-- A statement was refused behind calls that were granted, and a rollback was asked for. -/
  | abandoned {done left : List Statement} {stopped : Statement} {reason : String}
      (split : statements = done ++ stopped :: left)
      (granted : database.refused history (.begin :: writes (nextNumber history) done) = [])
      (refused : database.answer (history ++ .begin :: writes (nextNumber history) done)
        (.executeIn (nextNumber history) stopped.expand) = .error reason) :
      Transacted database history statements
        (.begin :: writes (nextNumber history) (done ++ [stopped]) ++
          [.rollback (nextNumber history)])

/-- What a run comes to: the number of statements, or the reason of the first refusal. -/
def verdict (count : Nat) : Option String → Outcome Nat
  | none => .ok count
  | some reason => .error (.execution reason)

/-- A run whose transaction is refused ends there. -/
theorem run_unopened {database : Database} {plan : Plan} {history : History} {reason : String}
    (nonempty : plan.isEmpty = false) (refused : database.answer history .begin = .error reason) :
    run database plan history = (.error (.execution reason), history ++ [.begin]) := by
  have opens : transaction database history =
      (outcome ((database.answer history .begin).map fun _ => nextNumber history),
        history ++ [.begin]) := rfl
  unfold run
  rw [if_neg (Bool.eq_false_iff.1 nonempty), Session.bind_apply, opens, refused]
  rfl

/-- The outcome of a run and the history behind it, once its statements are worked off. -/
def closed (database : Database) (number : Nat) (behind : History) :
    Outcome Nat → Outcome Nat × History
  | .ok count => ((outcome (database.answer behind (.commit number))).map fun _ => count,
      behind ++ [.commit number])
  | .error reason => (.error reason, behind ++ [.rollback number])

/-- A run whose transaction is opened works off the statements, and closes the transaction by a commit
or a rollback. -/
theorem run_opened {database : Database} {plan : Plan} {history behind : History} {rows : List Row}
    {worked : Outcome Nat} (nonempty : plan.isEmpty = false)
    (granted : database.answer history .begin = .ok rows)
    (ran : runStatements database (nextNumber history) 0 plan.statements (history ++ [.begin]) =
      (worked, behind)) :
    run database plan history = closed database (nextNumber history) behind worked := by
  have opens : transaction database history =
      (outcome ((database.answer history .begin).map fun _ => nextNumber history),
        history ++ [.begin]) := rfl
  have closes : commit database (nextNumber history) behind =
      ((outcome (database.answer behind (.commit (nextNumber history)))).map fun _ => (),
        behind ++ [.commit (nextNumber history)]) := rfl
  have opened : outcome ((Except.ok rows).map fun _ => nextNumber history) =
      .ok (nextNumber history) := rfl
  unfold run runIn
  rw [if_neg (Bool.eq_false_iff.1 nonempty), Session.bind_apply, opens, granted, opened]
  simp only [Session.bind_apply, ran]
  cases worked with
  | error reason => rfl
  | ok count =>
    simp only [Session.bind_apply, closes, closed]
    cases database.answer behind (.commit (nextNumber history)) <;> rfl

/-- **The calls of a run of some statements, and what it comes to.** -/
theorem run_transacted (database : Database) {plan : Plan} (history : History)
    (nonempty : plan.isEmpty = false) :
    ∃ calls, Transacted database history plan.statements calls ∧
      run database plan history =
        (verdict plan.statementCount (database.firstRefusal? history calls), history ++ calls) := by
  cases begun : database.answer history .begin with
  | error reason =>
    refine ⟨_, .unopened begun, ?_⟩
    rw [run_unopened nonempty begun, Database.firstRefusal?, begun]
    rfl
  | ok rows =>
    have granted {statements : List Statement}
        (all : database.refused (history ++ [.begin]) (writes (nextNumber history) statements) = []) :
        database.refused history (.begin :: writes (nextNumber history) statements) = [] := by
      rw [Database.refused, begun]
      exact all
    have chained (calls : List Call) :
        history ++ [.begin] ++ calls = history ++ .begin :: calls := List.append_assoc _ _ _
    rcases runStatements_eq database (nextNumber history) 0 plan.statements (history ++ [.begin]) with
      ⟨all, ran⟩ | ⟨done, stopped, left, reason, split, all, refused, ran⟩
    · refine ⟨_, .completed (granted all), ?_⟩
      rw [run_opened nonempty begun ran, Database.firstRefusal?_append (granted all), chained,
        Nat.zero_add, Database.firstRefusal?, closed, List.append_assoc]
      cases database.answer (history ++ .begin :: writes (nextNumber history) plan.statements)
        (.commit (nextNumber history)) <;> rfl
    · rw [chained] at refused
      refine ⟨_, .abandoned split (granted all) refused, ?_⟩
      have written : writes (nextNumber history) (done ++ [stopped]) =
          writes (nextNumber history) done ++ [.executeIn (nextNumber history) stopped.expand] :=
        List.map_append
      have first : database.firstRefusal? history
          (.begin :: writes (nextNumber history) (done ++ [stopped]) ++
            [.rollback (nextNumber history)]) = some reason := by
        rw [written, ← List.cons_append, List.append_assoc,
          Database.firstRefusal?_append (granted all), List.singleton_append, Database.firstRefusal?,
          refused]
      rw [run_opened nonempty begun ran, first, chained, closed, List.append_assoc]
      rfl

/-! ### What can be seen -/

/-- A call that is not made outside of transactions and keeps nothing that was written in one. -/
def IsUnseen (call : Call) : Prop :=
  (∀ statement, call ≠ .execute statement) ∧ ∀ number, call ≠ .commit number

theorem isUnseen_begin : IsUnseen .begin := by simp [IsUnseen]

theorem isUnseen_rollback (number : Nat) : IsUnseen (.rollback number) := by simp [IsUnseen]

theorem isUnseen_of_mem_writes {number : Nat} {statements : List Statement} {call : Call}
    (inside : call ∈ writes number statements) : IsUnseen call := by
  obtain ⟨statement, -, rfl⟩ := List.mem_map.1 inside
  simp [IsUnseen]

section Visible

variable {State : Type} {database : Database} {visible : History → State}

theorem visible_append (isolates : database.Isolates visible) {calls : List Call}
    (unseen : ∀ call ∈ calls, IsUnseen call) (history : History) :
    visible (history ++ calls) = visible history := by
  induction calls generalizing history with
  | nil => rw [List.append_nil]
  | cons call rest ih =>
    obtain ⟨within, uncommitted⟩ := unseen call List.mem_cons_self
    rw [List.append_cons, ih fun other later => unseen other (List.mem_cons_of_mem _ later)]
    exact isolates history call within fun number _ same => absurd same (uncommitted number)

/-- **A run in which a call was refused leaves what can be seen as it was.** -/
theorem Transacted.visible_eq (isolates : database.Isolates visible) {history : History}
    {statements : List Statement} {calls : List Call} {reason : String}
    (transacted : Transacted database history statements calls)
    (failed : database.firstRefusal? history calls = some reason) :
    visible (history ++ calls) = visible history := by
  have opened (done : List Statement) (call : Call)
      (inside : call ∈ .begin :: writes (nextNumber history) done) : IsUnseen call := by
    rcases List.mem_cons.1 inside with rfl | inside
    · exact isUnseen_begin
    · exact isUnseen_of_mem_writes inside
  cases transacted with
  | unopened => exact visible_append isolates (List.forall_mem_singleton.2 isUnseen_begin) history
  | completed granted =>
    -- Only the commit is left to be refused, and a refused commit keeps nothing.
    rw [Database.firstRefusal?_append granted] at failed
    rw [← List.append_assoc, isolates _ _ (by simp) fun number rows same committed => ?_]
    · exact visible_append isolates (opened _) history
    · cases same
      rw [Database.firstRefusal?, committed] at failed
      cases failed
  | @abandoned done _ stopped =>
    refine visible_append isolates (fun call inside => ?_) history
    rcases List.mem_append.1 inside with inside | last
    · exact opened (done ++ [stopped]) call inside
    · rw [List.mem_singleton.1 last]
      exact isUnseen_rollback _

end Visible

/-! ### All or nothing -/

/-- **A plan is run completely or not at all.** Without statements it makes no call. Otherwise its calls
are those of one transaction, and they come to the number of statements or to the first refusal; and
in case of an error, nothing is changed that can be seen from outside. A mutation is run as its
plan, and makes no call if it has none. -/
theorem run_all_or_nothing (database : Database) (plan : Plan) (mutation : Mutation) (batched : Bool)
    (history : History) :
    (plan.isEmpty → run database plan history = (.ok 0, history)) ∧
    (plan.isEmpty = false → ∃ calls, Transacted database history plan.statements calls ∧
      run database plan history =
        (verdict plan.statementCount (database.firstRefusal? history calls), history ++ calls)) ∧
    (∀ (State : Type) (visible : History → State) (error : RunError), database.Isolates visible →
      (run database plan history).1 = .error error →
        visible (run database plan history).2 = visible history) ∧
    mutate database mutation batched history =
      match Mutation.compile mutation batched with
      | .ok compiled => run database compiled history
      | .error cause => (.error (.compile cause), history) := by
  have empty (none : plan.isEmpty) : run database plan history = (.ok 0, history) := by
    unfold run
    rw [if_pos none]
    rfl
  refine ⟨empty, run_transacted database history, ?_, ?_⟩
  · intro State visible error isolates failed
    cases none : plan.isEmpty with
    | true => rw [empty none]
    | false =>
      obtain ⟨calls, transacted, ran⟩ := run_transacted database history none
      rw [ran] at failed ⊢
      cases refusal : database.firstRefusal? history calls with
      | none =>
        rw [refusal] at failed
        cases failed
      | some reason => exact transacted.visible_eq isolates refusal
  · unfold mutate
    cases Mutation.compile mutation batched <;> rfl

/-- A database that refuses statements without values, and cannot roll back. -/
def faltering : Database where
  answer _ call :=
    match call with
    | .executeIn _ statement => if statement.params.isEmpty then .error "locked" else .ok []
    | .rollback _ => .error "gone"
    | _ => .ok []

/-- How often something was kept. -/
def kept (history : History) : Nat :=
  history.countP fun
    | .execute _ | .commit _ => true
    | _ => false

theorem faltering_isolates : faltering.Isolates kept := by
  intro history call within uncommitted
  cases call with
  | execute statement => exact absurd rfl (within statement)
  | commit number => exact absurd rfl (uncommitted number [] rfl)
  | _ => simp [kept]

/-- The second of three statements is refused, and so is the rollback. -/
theorem run_all_or_nothing_faltering :
    let plan : Plan := ⟨[⟨"songs", false, [⟨"INSERT", .rows [[.int 1]]⟩, ⟨"DELETE", .values []⟩]⟩,
      ⟨"authors", false, [⟨"INSERT", .values [.int 2]⟩]⟩]⟩
    plan.isEmpty = false ∧ faltering.Isolates kept ∧
    (∃ calls, Transacted faltering [] plan.statements calls ∧
      run faltering plan [] = (.error (.execution "locked"), calls)) ∧
    kept (run faltering plan []).2 = kept [] := by
  intro plan
  obtain ⟨-, transacts, unseen, -⟩ :=
    run_all_or_nothing faltering plan (.ofTable ⟨"songs", []⟩ (.setDelete [])) false []
  obtain ⟨calls, transacted, ran⟩ := transacts rfl
  have failed : (run faltering plan []).1 = .error (.execution "locked") := rfl
  refine ⟨rfl, faltering_isolates, ⟨calls, transacted, ?_⟩, ?_⟩
  · exact Prod.ext failed (by rw [ran, List.nil_append])
  · exact unseen Nat kept _ faltering_isolates failed

end Client

end SqlCraft
