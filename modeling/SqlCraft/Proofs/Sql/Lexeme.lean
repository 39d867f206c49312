/-
**Reading SQL text into lexemes.**

Quoted names, placeholders, and symbols: letters that follow each other are one symbol, and so are
signs of comparison; every other character but a blank is a symbol of its own. A placeholder inside
quotes is part of a name.

* `lex` — the lexemes of a text, unless a name in it is not closed;
* `lex_append` — texts are read one after the other, unless a lexeme reaches across;
* `Fragment.Spells` — a fragment is read as some lexemes wherever a `Boundary` follows its text;
* `ColumnName.spells` — a column is read as its two names, whatever characters they have.
-/

import Mathlib.Data.List.Basic
import SqlCraft.Proofs.Sql.QuotedName
import SqlCraft.Sql.Fragment

namespace SqlCraft.Sql

/-- What SQL text consists of. -/
inductive Lexeme where
  /-- A quoted name. -/
  | name (text : String)
  /-- A placeholder. -/
  | mark
  /-- A keyword, an operator, a number or punctuation. -/
  | symbol (text : String)
deriving DecidableEq

namespace Lexeme

/-- Whether a character is part of keywords and numbers. -/
def isLetter (c : Char) : Bool := c.isAlphanum || c == '_'

/-- Whether a character is part of comparison operators. -/
def isSign (c : Char) : Bool := c == '=' || c == '!' || c == '<' || c == '>'

/-- Which characters go on with the symbol that a character starts. -/
def continues (c : Char) : Char → Bool :=
  if isLetter c then isLetter else if isSign c then isSign else fun _ => false

end Lexeme

open Lexeme (isLetter isSign continues)

/-- The lexemes of a text. -/
def lex : List Char → Option (List Lexeme)
  | [] => some []
  | c :: rest =>
    if c = ' ' then lex rest
    else if c = '?' then (lex rest).map (.mark :: ·)
    else if c = '\x60' then
      match _found : readClosing? rest with
      | some (name, behind) => (lex behind).map (.name (String.ofList name) :: ·)
      | none => none
    else
      (lex (rest.dropWhile (continues c))).map
        (.symbol (String.ofList (c :: rest.takeWhile (continues c))) :: ·)
termination_by text => text.length
decreasing_by
  · simp
  · simp
  · have := readClosing?_length _found
    simp only [List.length_cons]
    omega
  · have := (List.dropWhile_sublist (continues c) (l := rest)).length_le
    simp only [List.length_cons]
    omega

/-! ### Single lexemes -/

theorem lex_nil : lex [] = some [] := by rw [lex]

theorem lex_blank (rest : List Char) : lex (' ' :: rest) = lex rest := by
  rw [lex]
  simp

theorem lex_mark (rest : List Char) : lex ('?' :: rest) = (lex rest).map (.mark :: ·) := by
  rw [lex]
  simp

theorem lex_name {rest name behind : List Char} (found : readClosing? rest = some (name, behind)) :
    lex ('\x60' :: rest) = (lex behind).map (.name (String.ofList name) :: ·) := by
  rw [lex, if_neg (by decide), if_neg (by decide), if_pos rfl]
  split
  · rename_i read same
    rw [found] at same
    cases same
    rfl
  · rename_i missing
    rw [found] at missing
    cases missing

/-- A quoted name is one lexeme. -/
theorem lex_quote (name : String) {rest : List Char} (apart : rest.head? ≠ some '\x60') :
    lex ((quote name).toList ++ rest) = (lex rest).map (.name name :: ·) := by
  rw [toList_quote_append, lex_name (readClosing?_doubleBackticks name.toList apart),
    String.ofList_toList]

/-- A symbol reaches as far as its first character is gone on with. -/
theorem lex_symbol {c : Char} (letters : List Char) {rest : List Char}
    (plain : c ≠ ' ' ∧ c ≠ '?' ∧ c ≠ '\x60') (within : letters.all (continues c))
    (apart : ∀ d ∈ rest.head?, continues c d = false) :
    lex (c :: letters ++ rest) =
      (lex rest).map (.symbol (String.ofList (c :: letters)) :: ·) := by
  rw [List.all_eq_true] at within
  have taken : (letters ++ rest).takeWhile (continues c) = letters := by
    rw [List.takeWhile_append_of_pos within]
    cases rest with
    | nil => simp
    | cons d rest => simp [apart d rfl]
  have dropped : (letters ++ rest).dropWhile (continues c) = rest := by
    rw [List.dropWhile_append_of_pos within]
    cases rest with
    | nil => simp
    | cons d rest => simp [apart d rfl]
  rw [List.cons_append, lex, if_neg plain.1, if_neg plain.2.1, if_neg plain.2.2, taken, dropped]

/-! ### Texts one after the other -/

/-- Whether two characters that follow each other can belong to one lexeme. -/
def sticks (c d : Char) : Bool := continues c d || (c == '\x60' && d == '\x60')

theorem isLetter_of_isSign {c : Char} (sign : isSign c) : isLetter c = false := by
  simp only [isSign, Bool.or_eq_true, beq_iff_eq] at sign
  rcases sign with ((rfl | rfl) | rfl) | rfl <;> rfl

/-- Characters of one symbol are gone on with by the same characters. -/
theorem continues_eq {c d : Char} (within : continues c d) : continues d = continues c := by
  by_cases letter : isLetter c
  · have both : isLetter d := by simpa [continues, letter] using within
    simp [continues, letter, both]
  · by_cases sign : isSign c
    · have both : isSign d := by simpa [continues, letter, sign] using within
      simp [continues, letter, sign, both, isLetter_of_isSign both]
    · simp [continues, letter, sign] at within

theorem exists_last_of_continues {c : Char} {letters : List Char}
    (within : letters.all (continues c)) :
    ∃ e ∈ (c :: letters).getLast?, continues e = continues c := by
  cases letters with
  | nil => exact ⟨c, rfl, rfl⟩
  | cons d letters =>
    have last := List.getLast?_eq_some_getLast (List.cons_ne_nil d letters)
    have inside := List.all_eq_true.1 within _ (List.mem_of_mem_getLast? last)
    exact ⟨_, List.mem_getLast?_cons last, continues_eq inside⟩

/-- What stands behind a symbol does not go on with it if it does not go on with the end of the text. -/
theorem continues_behind {c : Char} {rest right : List Char}
    (apart : ∀ e ∈ (c :: rest).getLast?, ∀ d ∈ right.head?, sticks e d = false) :
    ∀ d ∈ (rest.dropWhile (continues c) ++ right).head?, continues c d = false := by
  intro d first
  cases behind : rest.dropWhile (continues c) with
  | nil =>
    -- The symbol is all of the text, and is gone on with like its last character.
    have split := List.takeWhile_append_dropWhile (p := continues c) (l := rest)
    have within : (rest.takeWhile (continues c)).all (continues c) := List.all_takeWhile
    rw [behind, List.append_nil] at split
    rw [split] at within
    rw [behind, List.nil_append] at first
    obtain ⟨e, last, same⟩ := exists_last_of_continues within
    have ends := apart e last d first
    rw [sticks, same, Bool.or_eq_false_iff] at ends
    exact ends.1
  | cons e others =>
    rw [behind] at first
    cases first
    have stopped := List.head?_dropWhile_not (continues c) rest
    rw [behind] at stopped
    simpa using stopped

/-- **Texts are read one after the other**, unless the second goes on with the last lexeme of the
first. -/
theorem lex_append {left right : List Char} {first : List Lexeme} (read : lex left = some first)
    (apart : ∀ c ∈ left.getLast?, ∀ d ∈ right.head?, sticks c d = false) :
    lex (left ++ right) = (lex right).map (first ++ ·) := by
  fun_induction lex left generalizing first with
  | case1 =>
    cases read
    simp
  | case2 rest ih =>
    have later := ih read fun c last => apart c (List.mem_getLast?_cons last)
    rw [List.cons_append, lex_blank, later]
  | case3 rest _ ih =>
    obtain ⟨lexemes, found, rfl⟩ := Option.map_eq_some_iff.1 read
    have later := ih found fun c last => apart c (List.mem_getLast?_cons last)
    rw [List.cons_append, lex_mark, later, Option.map_map]
    rfl
  | case4 rest name behind found _ _ ih =>
    obtain ⟨lexemes, readBehind, rfl⟩ := Option.map_eq_some_iff.1 read
    have ends : ∀ c ∈ ('\x60' :: behind).getLast?, ∀ d ∈ right.head?, sticks c d = false := by
      intro c last
      obtain ⟨quoted, same⟩ := readClosing?_suffix found
      refine apart c (List.mem_getLast?_cons ?_)
      rw [← same]
      exact List.mem_getLast?_append_of_mem_getLast? last
    have closed : behind = [] → right.head? ≠ some '\x60' := by
      rintro rfl closing
      exact absurd (ends '\x60' rfl '\x60' closing) (by decide)
    have later := ih readBehind fun c last => ends c (List.mem_getLast?_cons last)
    rw [List.cons_append, lex_name (readClosing?_append found closed), later, Option.map_map]
    rfl
  | case5 => cases read
  | case6 c rest blank mark tick ih =>
    obtain ⟨lexemes, found, rfl⟩ := Option.map_eq_some_iff.1 read
    have split := List.takeWhile_append_dropWhile (p := continues c) (l := rest)
    have within : (rest.takeWhile (continues c)).all (continues c) := List.all_takeWhile
    have whole (text : List Char) : c :: rest ++ text =
        c :: rest.takeWhile (continues c) ++ (rest.dropWhile (continues c) ++ text) := by
      rw [List.cons_append, List.cons_append, ← List.append_assoc, split]
    have ends := continues_behind apart
    have later := ih found fun d last => apart d ?_
    · rw [whole, lex_symbol _ ⟨blank, mark, tick⟩ within ends, later, Option.map_map]
      rfl
    · rw [← split]
      exact List.mem_getLast?_cons (List.mem_getLast?_append_of_mem_getLast? last)

/-! ### Fragments -/

/-- What stands behind a text does not go on with its last lexeme. -/
def Boundary (rest : List Char) : Prop :=
  ∀ c ∈ rest.head?, c ≠ '\x60' ∧ isLetter c = false ∧ isSign c = false

theorem Boundary.nil : Boundary [] := fun _ inside => by cases inside

theorem Boundary.blank {rest : List Char} : Boundary (' ' :: rest) := by
  intro c first
  cases first
  decide

theorem Boundary.closing {rest : List Char} : Boundary (')' :: rest) := by
  intro c first
  cases first
  decide

theorem Boundary.apart {rest : List Char} (boundary : Boundary rest) :
    rest.head? ≠ some '\x60' := fun first => (boundary _ first).1 rfl

theorem Boundary.ends {rest : List Char} (boundary : Boundary rest) (c : Char) :
    ∀ d ∈ rest.head?, continues c d = false := by
  intro d first
  obtain ⟨_, letter, sign⟩ := boundary d first
  unfold continues
  split
  · exact letter
  · split
    · exact sign
    · rfl

namespace Fragment

/-- Wherever a boundary follows, the text of the fragment is read as the lexemes. -/
def Spells (fragment : Fragment) (lexemes : List Lexeme) : Prop :=
  ∀ rest : List Char, Boundary rest →
    lex (fragment.text.toList ++ rest) = (lex rest).map (lexemes ++ ·)

@[simp] theorem text_nil : text [] = "" := rfl

@[simp] theorem text_cons (piece : Piece) (fragment : Fragment) :
    text (piece :: fragment) = piece.text ++ fragment.text := by
  simp [text]

@[simp] theorem text_append (left right : Fragment) :
    text (left ++ right) = left.text ++ right.text := by
  simp [text]

theorem text_join (separator : String) (fragments : List Fragment) :
    text (join separator fragments) = String.intercalate separator (fragments.map text) := by
  induction fragments with
  | nil => rfl
  | cons fragment rest ih =>
    cases rest with
    | nil => simp [join]
    | cons second rest =>
      have joined : join separator (fragment :: second :: rest) =
          fragment ++ .word separator :: join separator (second :: rest) := rfl
      have later : separator.intercalate ((fragment :: second :: rest).map text) =
          fragment.text ++ separator ++ separator.intercalate ((second :: rest).map text) :=
        String.intercalate_cons_of_ne_nil (List.cons_ne_nil _ _)
      rw [joined, text_append, text_cons, ih, later, String.append_assoc]
      rfl

theorem text_names (list : List String) : text (names list) = quoteList list := by
  rw [names, text_join, List.map_map, quoteList]
  congr 2

@[simp] theorem params_nil : params [] = [] := rfl

@[simp] theorem params_word (text : String) (fragment : Fragment) :
    params (.word text :: fragment) = fragment.params := rfl

@[simp] theorem params_identifier (name : String) (fragment : Fragment) :
    params (.identifier name :: fragment) = fragment.params := rfl

@[simp] theorem params_slot (value : Value) (fragment : Fragment) :
    params (.slot value :: fragment) = value :: fragment.params := rfl

theorem params_join (separator : String) (fragments : List Fragment) :
    params (join separator fragments) = fragments.flatMap params := by
  induction fragments with
  | nil => rfl
  | cons fragment rest ih =>
    cases rest with
    | nil => simp [join]
    | cons second rest =>
      have joined : join separator (fragment :: second :: rest) =
          fragment ++ .word separator :: join separator (second :: rest) := rfl
      rw [joined, params_append, List.flatMap_cons, ← ih]
      rfl

theorem params_parenthesized (fragment : Fragment) :
    params (parenthesized fragment) = fragment.params := by
  show params (fragment ++ [.word ")"]) = fragment.params
  rw [params_append]
  exact List.append_nil _

/-- Two fragments are read one after the other if the second starts with a boundary. -/
theorem Spells.append {left right : Fragment} {first second : List Lexeme}
    (reads : left.Spells first) (readsRight : right.Spells second)
    (apart : ∀ rest, Boundary rest → Boundary (right.text.toList ++ rest)) :
    Spells (left ++ right) (first ++ second) := by
  intro rest boundary
  rw [text_append, String.toList_append, List.append_assoc, reads _ (apart rest boundary),
    readsRight rest boundary, Option.map_map]
  congr 1
  funext lexemes
  simp

end Fragment

/-- **A column is read as its two names.** -/
theorem ColumnName.spells (column : ColumnName) :
    column.fragment.Spells [.name column.table, .symbol ".", .name column.field] := by
  intro rest boundary
  have point : ("." : String).toList = ['.'] := rfl
  simp only [fragment, Fragment.text_cons, Fragment.text_nil, Piece.text, String.append_empty,
    String.toList_append, point, List.append_assoc]
  rw [lex_quote column.table (by simp), List.singleton_append, ← List.nil_append (_ ++ rest),
    ← List.cons_append, lex_symbol [] (by decide) (by simp) ?_, lex_quote column.field boundary.apart]
  · simp [Option.map_map, Function.comp_def]
  · intro d _
    rfl

end SqlCraft.Sql
