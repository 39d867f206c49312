/-
**The first occurrence of a pattern in SQL text.**

A pattern without a certain character cannot reach across it. So a pattern without backticks that occurs
in SQL text occurs inside of a name or beside the names, and doubling the backticks of a name neither
makes an occurrence nor breaks one.

* `infix_append_cons_iff` — a pattern stands on one side of a character that it does not have;
* `infix_quote_append_iff` — in a name as it was declared, or beside its quotes;
* `replaceFirst_append_cons`, `replaceFirst_of_infix` — replacing skips text without the pattern, and
  goes no further than text with it.
-/

import SqlCraft.Proofs.Sql.QuotedName
import SqlCraft.Sql.Statement

namespace SqlCraft.Sql

variable {pattern : List Char}

/-! ### Occurrences -/

theorem prefix_append_cons_iff {c : Char} (apart : c ∉ pattern) (left right : List Char) :
    pattern <+: left ++ c :: right ↔ pattern <+: left := by
  refine ⟨fun starts => ?_, fun starts => starts.trans (List.prefix_append _ _)⟩
  induction left generalizing pattern with
  | nil =>
    cases pattern with
    | nil => exact List.prefix_rfl
    | cons d pattern =>
      obtain ⟨rfl, -⟩ := List.cons_prefix_cons.1 starts
      exact absurd List.mem_cons_self apart
  | cons e left ih =>
    cases pattern with
    | nil => exact List.nil_prefix
    | cons d pattern =>
      obtain ⟨rfl, later⟩ := List.cons_prefix_cons.1 starts
      exact List.cons_prefix_cons.2 ⟨rfl, ih (fun inside => apart (List.mem_cons_of_mem _ inside)) later⟩

/-- A pattern stands on one side of a character that it does not have. -/
theorem infix_append_cons_iff {c : Char} (apart : c ∉ pattern) (left right : List Char) :
    pattern <:+: left ++ c :: right ↔ pattern <:+: left ∨ pattern <:+: right := by
  induction left with
  | nil =>
    have starts : pattern <+: c :: right ↔ pattern <+: [] := prefix_append_cons_iff apart [] right
    rw [List.nil_append, List.infix_cons_iff, starts, List.prefix_nil, List.infix_nil]
  | cons d left ih =>
    have starts : pattern <+: d :: (left ++ c :: right) ↔ pattern <+: d :: left :=
      prefix_append_cons_iff apart (d :: left) right
    rw [List.cons_append, List.infix_cons_iff, List.infix_cons_iff, starts, ih, or_assoc]

/-! ### Names -/

theorem prefix_doubleBackticks_iff {name : List Char} (apart : '\x60' ∉ pattern) :
    pattern <+: doubleBackticks name ↔ pattern <+: name := by
  induction name generalizing pattern with
  | nil => exact Iff.rfl
  | cons c name ih =>
    cases pattern with
    | nil => simp
    | cons d pattern =>
      rw [List.mem_cons, not_or] at apart
      by_cases tick : c = '\x60'
      · rw [tick, doubleBackticks_backtick, List.cons_prefix_cons, List.cons_prefix_cons]
        exact ⟨fun both => absurd both.1.symm apart.1, fun both => absurd both.1.symm apart.1⟩
      · rw [doubleBackticks_cons_of_ne tick, List.cons_prefix_cons, List.cons_prefix_cons, ih apart.2]

/-- Doubling backticks neither makes an occurrence nor breaks one. -/
theorem infix_doubleBackticks_iff {name : List Char} (apart : '\x60' ∉ pattern) :
    pattern <:+: doubleBackticks name ↔ pattern <:+: name := by
  induction name with
  | nil => exact Iff.rfl
  | cons c name ih =>
    by_cases tick : c = '\x60'
    · have behind (rest : List Char) :
          pattern <:+: '\x60' :: rest ↔ pattern <:+: [] ∨ pattern <:+: rest :=
        infix_append_cons_iff apart [] rest
      rw [tick, doubleBackticks_backtick, behind, behind, behind, ih, or_self_left]
    · have starts : pattern <+: doubleBackticks (c :: name) ↔ pattern <+: c :: name :=
        prefix_doubleBackticks_iff apart
      rw [doubleBackticks_cons_of_ne tick] at starts ⊢
      rw [List.infix_cons_iff, List.infix_cons_iff, starts, ih]

/-- **A pattern without backticks stands in the name or beside its quotes.** -/
theorem infix_quote_append_iff {left right : List Char} (name : String) (apart : '\x60' ∉ pattern) :
    pattern <:+: left ++ ((quote name).toList ++ right) ↔
      pattern <:+: left ∨ pattern <:+: name.toList ∨ pattern <:+: right := by
  rw [toList_quote_append, infix_append_cons_iff apart, infix_append_cons_iff apart,
    infix_doubleBackticks_iff apart]

/-! ### Replacing -/

variable {replacement : List Char}

theorem replaceFirst_pattern_append (wanted : pattern ≠ []) (rest : List Char) :
    replaceFirst pattern replacement (pattern ++ rest) = replacement ++ rest := by
  cases pattern with
  | nil => exact absurd rfl wanted
  | cons d pattern =>
    have starts : (d :: pattern).isPrefixOf (d :: (pattern ++ rest)) :=
      List.isPrefixOf_iff_prefix.2 (List.prefix_append _ _)
    rw [List.cons_append, replaceFirst, if_pos starts, List.length_cons, List.drop_succ_cons,
      List.drop_left]

theorem replaceFirst_cons_of_not_prefix {c : Char} {rest : List Char}
    (absent : ¬ pattern <+: c :: rest) :
    replaceFirst pattern replacement (c :: rest) = c :: replaceFirst pattern replacement rest := by
  rw [replaceFirst, if_neg (mt List.isPrefixOf_iff_prefix.1 absent)]

/-- Replacing skips text that does not have the pattern, up to a character that ends every try. -/
theorem replaceFirst_append_cons {left : List Char} {c : Char} (apart : c ∉ pattern)
    (absent : ¬ pattern <:+: left) (rest : List Char) :
    replaceFirst pattern replacement (left ++ c :: rest) =
      left ++ c :: replaceFirst pattern replacement rest := by
  induction left with
  | nil =>
    refine replaceFirst_cons_of_not_prefix fun starts => absent ?_
    exact ((prefix_append_cons_iff apart [] rest).1 starts).isInfix
  | cons d left ih =>
    rw [List.infix_cons_iff, not_or] at absent
    have skipped : ¬ pattern <+: d :: (left ++ c :: rest) := fun starts =>
      absent.1 ((prefix_append_cons_iff apart (d :: left) rest).1 starts)
    rw [List.cons_append, replaceFirst_cons_of_not_prefix skipped, ih absent.2]
    rfl

/-- Replacing goes no further than text that has the pattern. -/
theorem replaceFirst_of_infix (replacement : List Char) {left : List Char} (wanted : pattern ≠ [])
    (found : pattern <:+: left) :
    ∃ before behind, left = before ++ (pattern ++ behind) ∧ ∀ rest,
      replaceFirst pattern replacement (left ++ rest) =
        before ++ (replacement ++ (behind ++ rest)) := by
  induction left with
  | nil => exact absurd (List.infix_nil.1 found) wanted
  | cons c left ih =>
    by_cases starts : pattern <+: c :: left
    · obtain ⟨behind, same⟩ := starts
      refine ⟨[], behind, same.symm, fun rest => ?_⟩
      rw [← same, List.append_assoc, replaceFirst_pattern_append wanted]
      rfl
    · have later : pattern <:+: left := (List.infix_cons_iff.1 found).resolve_left starts
      obtain ⟨before, behind, same, replaced⟩ := ih later
      refine ⟨c :: before, behind, by rw [same]; rfl, fun rest => ?_⟩
      -- What follows cannot complete an occurrence that starts here: the pattern fits into `left`.
      have skipped : ¬ pattern <+: c :: (left ++ rest) := fun reaches =>
        starts (List.prefix_of_prefix_length_le reaches (List.prefix_append (c :: left) rest)
          (Nat.le_succ_of_le later.length_le))
      rw [List.cons_append, replaceFirst_cons_of_not_prefix skipped, replaced rest]
      rfl

end SqlCraft.Sql
