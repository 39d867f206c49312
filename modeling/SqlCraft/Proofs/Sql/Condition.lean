/-
**Conditions among the tokens of a statement.**

A condition that a statement holds is read from its tokens, which have their values already. A
fragment that is read as a condition gives such tokens: reading it took exactly its own parameters,
and no word on the way starts another part of the statement.

* `before`, `behind?`, `condition?` — the tokens around a word, and those that a query asks by;
* `Predicate.ofTokens?` — the condition that tokens stand for;
* `Reading.run_takes` — what a run of the reader takes;
* `Fragment.Reads.tells` — the tokens of a fragment that is read as a condition;
* `Fragment.tells_conjunction` — those of fragments that are joined by `AND`.
-/

import SqlCraft.Proofs.Sql.ReadBack
import SqlCraft.Proofs.Sql.Token

namespace SqlCraft.Sql

/-- Whether the token is a word that starts a part of a statement behind its tables. -/
def Token.isClause : Token → Bool
  | .symbol "WHERE" | .symbol "ORDER" | .symbol "LIMIT" => true
  | _ => false

/-- The tokens before the first occurrence of a word. -/
def before (word : String) (tokens : List Token) : List Token :=
  tokens.takeWhile (· != .symbol word)

/-- The tokens behind the first occurrence of a word, if there is one. -/
def behind? (word : String) : List Token → Option (List Token)
  | [] => none
  | token :: rest => if token = .symbol word then some rest else behind? word rest

/-- What a query asks: the tokens from its `WHERE` up to its next part. -/
def condition? (tokens : List Token) : Option (List Token) :=
  (behind? "WHERE" tokens).map (·.takeWhile fun token => !token.isClause)

/-- The condition that tokens stand for; no tokens ask nothing. -/
def Predicate.ofTokens? : List Token → Option Predicate
  | [] => some (.oneOf [[]])
  | tokens => do
    let reading ← (tokens.map Token.lexeme).foldlM Reading.step ⟨.start, .empty, [], values tokens⟩
    reading.finish?

/-! ### Words among tokens -/

section

variable {word : String} {left : List Token}

theorem takeWhile_append (absent : .symbol word ∉ left) (right : List Token) :
    before word (left ++ right) = left ++ before word right :=
  List.takeWhile_append_of_pos fun _ inside => bne_iff_ne.2 fun same => absent (same ▸ inside)

theorem before_append (absent : .symbol word ∉ left) (right : List Token) :
    before word (left ++ .symbol word :: right) = left := by
  rw [takeWhile_append absent, before, List.takeWhile_cons_of_neg (by simp), List.append_nil]

theorem before_of_not_mem (absent : .symbol word ∉ left) : before word left = left := by
  have whole := takeWhile_append absent []
  rwa [List.append_nil, before, before, List.takeWhile_nil, List.append_nil] at whole

theorem behind?_append (absent : .symbol word ∉ left) (right : List Token) :
    behind? word (left ++ .symbol word :: right) = some right := by
  induction left with
  | nil => exact if_pos rfl
  | cons token left ih =>
    rw [List.mem_cons, not_or] at absent
    rw [List.cons_append, behind?, if_neg (Ne.symm absent.1), ih absent.2]

theorem behind?_of_not_mem (absent : .symbol word ∉ left) : behind? word left = none := by
  induction left with
  | nil => rfl
  | cons token left ih =>
    rw [List.mem_cons, not_or] at absent
    rw [behind?, if_neg (Ne.symm absent.1), ih absent.2]

end

/-! ### What the reader takes -/

theorem Operator.eq_of_ofSign? {sign : String} {operator : Operator}
    (found : Operator.ofSign? sign = some operator) : sign = operator.sign := by
  unfold Operator.ofSign? at found
  have same := List.find?_some found
  exact (beq_iff_eq.1 same).symm

namespace Reading

/-- Reading a lexeme takes the value of its token, and the lexeme does not start a part. -/
theorem step_takes {reading next : Reading} {lexeme : Lexeme}
    (steps : reading.step lexeme = some next) :
    ∃ token : Token, token.lexeme = lexeme ∧ token.isClause = false ∧
      reading.params = values [token] ++ next.params := by
  unfold step at steps
  split at steps
  case h_6 column sign _ _ =>
    obtain ⟨operator, found, rfl⟩ := Option.map_eq_some_iff.1 steps
    rw [Operator.eq_of_ofSign? found]
    exact ⟨.symbol operator.sign, rfl, by cases operator <;> rfl, rfl⟩
  case h_10 column operator _ =>
    split at steps
    · rename_i value rest more
      cases steps
      exact ⟨.value value, rfl, rfl, more⟩
    · cases steps
  case h_13 =>
    split at steps
    · cases steps
      exact ⟨.symbol ")", rfl, rfl, rfl⟩
    · cases steps
  case h_14 => cases steps
  -- The other lexemes are names, and words that are not the start of a part.
  all_goals
    cases steps
    first
      | exact ⟨.name _, rfl, rfl, rfl⟩
      | exact ⟨.symbol _, rfl, rfl, rfl⟩

/-- **A run takes one parameter for each mark**, in order. -/
theorem run_takes {reading final : Reading} {lexemes : List Lexeme}
    (run : lexemes.foldlM step reading = some final) :
    ∃ tokens : List Token, tokens.map Token.lexeme = lexemes ∧
      (∀ token ∈ tokens, token.isClause = false) ∧ reading.params = values tokens ++ final.params := by
  induction lexemes generalizing reading with
  | nil =>
    cases run
    exact ⟨[], rfl, by simp, rfl⟩
  | cons lexeme rest ih =>
    rw [List.foldlM_cons] at run
    obtain ⟨next, steps, run⟩ := Option.bind_eq_some_iff.1 run
    obtain ⟨token, here, plain, taken⟩ := step_takes steps
    obtain ⟨tokens, later, plainToo, takenToo⟩ := ih run
    refine ⟨token :: tokens, by rw [List.map_cons, here, later],
      List.forall_mem_cons.2 ⟨plain, plainToo⟩, ?_⟩
    rw [taken, takenToo, ← List.append_assoc, ← values_append]
    rfl

end Reading

/-! ### Fragments -/

/-- **A fragment that is read as a condition consists of tokens that stand for it.** -/
theorem Fragment.Reads.tells {fragment : Fragment} {first : List Predicate}
    {alternatives : List (List Predicate)} (reads : fragment.Reads (first :: alternatives)) :
    ∃ tokens, fragment.Tells tokens ∧ (∀ token ∈ tokens, token.isClause = false) ∧
      Predicate.ofTokens? tokens = some (.oneOf (first :: alternatives)) := by
  obtain ⟨lexemes, spells, run⟩ := reads
  have whole := run .empty [] []
  rw [List.append_nil] at whole
  obtain ⟨tokens, rfl, plain, taken⟩ := Reading.run_takes whole
  have taken : fragment.params = values tokens := taken.trans (List.append_nil _)
  refine ⟨tokens, ⟨spells, taken⟩, plain, ?_⟩
  have inside : (Level.empty.extend (first :: alternatives)).alternatives =
      first :: alternatives := Level.alternatives_extend Level.empty first alternatives
  rw [taken] at whole
  cases tokens with
  | nil => cases whole
  | cons token rest =>
    simp only [Predicate.ofTokens?, whole, Option.bind_eq_bind, Option.bind_some, Reading.finish?,
      inside]

/-- **Fragments that are read as conjuncts consist, joined by `AND`, of tokens that stand for all of
them.** -/
theorem Fragment.tells_conjunction {fragments : List Fragment} {parts : List (List Predicate)}
    (reads : List.Forall₂ (fun fragment part => Fragment.Reads fragment [part]) fragments parts) :
    ∃ tokens, (Fragment.join " AND " fragments).Tells tokens ∧
      (∀ token ∈ tokens, token.isClause = false) ∧
      Predicate.ofTokens? tokens = some (.oneOf [parts.flatten]) := by
  cases reads with
  | nil => exact ⟨[], .nil, by simp, rfl⟩
  | cons first others => exact (Fragment.Reads.conjunction first others).tells

end SqlCraft.Sql
