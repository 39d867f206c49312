/-
**Reading SQL text together with its parameters.**

The placeholders of a text take its parameters from left to right, none may be left over, and so the
text becomes a list of tokens: names, symbols and values. What was written with a fragment is read
piece by piece, as long as no lexeme reaches from one piece into the next:

* `tokens?` — the tokens of a text and its parameters;
* `openMarks_of_tokens?` — there is one placeholder outside of quoted names for each parameter;
* `Fragment.Tells` — a fragment is read as some tokens; rules for each piece, for appending and for
  joining;
* `Fragment.Tells.tokens?_eq` — so its text and its parameters are read as these tokens.
-/

import Mathlib.Data.List.Forall2
import SqlCraft.Proofs.Sql.Placeholder

namespace SqlCraft.Sql

open Lexeme (isLetter isSign continues)

/-- What SQL text consists of when its placeholders have taken their values. -/
inductive Token where
  | name (text : String)
  | symbol (text : String)
  | value (value : Value)
deriving DecidableEq

namespace Token

/-- The lexeme that the token is written as. -/
def lexeme : Token → Lexeme
  | .name text => .name text
  | .symbol text => .symbol text
  | .value _ => .mark

/-- The value that the token holds, if it does. -/
def value? : Token → Option Value
  | .value held => some held
  | _ => none

end Token

/-- The values among tokens, in order. -/
def values (tokens : List Token) : List Value := tokens.filterMap Token.value?

@[simp] theorem values_nil : values [] = [] := rfl

@[simp] theorem values_name (text : String) (tokens : List Token) :
    values (.name text :: tokens) = values tokens := rfl

@[simp] theorem values_symbol (text : String) (tokens : List Token) :
    values (.symbol text :: tokens) = values tokens := rfl

@[simp] theorem values_value (value : Value) (tokens : List Token) :
    values (.value value :: tokens) = value :: values tokens := rfl

@[simp] theorem values_append (left right : List Token) :
    values (left ++ right) = values left ++ values right :=
  List.filterMap_append

/-- Parts with commas between them. -/
def commas (parts : List (List Token)) : List Token := [Token.symbol ","].intercalate parts

theorem commas_cons_cons (part next : List Token) (parts : List (List Token)) :
    commas (part :: next :: parts) = part ++ .symbol "," :: commas (next :: parts) := by
  rw [commas, List.intercalate_cons_cons, List.append_assoc]
  rfl

/-- What holds of a separator and of the tokens of all parts holds of all tokens. -/
theorem forall_mem_intercalate {holds : Token → Prop} {separator : Token} (between : holds separator)
    {parts : List (List Token)} (each : ∀ part ∈ parts, ∀ token ∈ part, holds token) :
    ∀ token ∈ [separator].intercalate parts, holds token := by
  induction parts with
  | nil => simp
  | cons part parts ih =>
    obtain ⟨first, later⟩ := List.forall_mem_cons.1 each
    cases parts with
    | nil => simpa using first
    | cons next parts =>
      rw [List.intercalate_cons_cons, List.append_assoc, List.forall_mem_append,
        List.singleton_append, List.forall_mem_cons]
      exact ⟨first, between, ih later⟩

/-- What holds of a comma and of the tokens of all parts holds of all tokens. -/
theorem forall_mem_commas {holds : Token → Prop} (comma : holds (.symbol ","))
    {parts : List (List Token)} (each : ∀ part ∈ parts, ∀ token ∈ part, holds token) :
    ∀ token ∈ commas parts, holds token :=
  forall_mem_intercalate comma each

/-- Lexemes whose marks have taken the parameters, if there are as many of the ones as of the
others. -/
def bind? : List Lexeme → List Value → Option (List Token)
  | [], [] => some []
  | .name text :: rest, params => (bind? rest params).map (.name text :: ·)
  | .symbol text :: rest, params => (bind? rest params).map (.symbol text :: ·)
  | .mark :: rest, value :: params => (bind? rest params).map (.value value :: ·)
  | _, _ => none

/-- The tokens of a text and its parameters. -/
def tokens? (sql : String) (params : List Value) : Option (List Token) := do
  bind? (← lex sql.toList) params

theorem bind?_lexemes (tokens : List Token) :
    bind? (tokens.map Token.lexeme) (values tokens) = some tokens := by
  induction tokens with
  | nil => rfl
  | cons token rest ih =>
    cases token with
    | name text => exact congrArg (Option.map (.name text :: ·)) ih
    | symbol text => exact congrArg (Option.map (.symbol text :: ·)) ih
    | value value => exact congrArg (Option.map (.value value :: ·)) ih

/-- **Binding takes neither a placeholder nor a value away.** -/
theorem eq_of_bind? {lexemes : List Lexeme} {params : List Value} {tokens : List Token}
    (bound : bind? lexemes params = some tokens) :
    lexemes = tokens.map Token.lexeme ∧ params = values tokens := by
  fun_induction bind? lexemes params generalizing tokens with
  | case1 =>
    cases bound
    exact ⟨rfl, rfl⟩
  | case2 text rest params ih | case3 text rest params ih | case4 rest value params ih =>
    obtain ⟨later, found, rfl⟩ := Option.map_eq_some_iff.1 bound
    obtain ⟨rfl, rfl⟩ := ih found
    exact ⟨rfl, rfl⟩
  | case5 => cases bound

/-- The parameters of a text are the values among its tokens. -/
theorem values_of_tokens? {sql : String} {params : List Value} {tokens : List Token}
    (read : tokens? sql params = some tokens) : params = values tokens := by
  obtain ⟨lexemes, -, bound⟩ := Option.bind_eq_some_iff.1 read
  exact (eq_of_bind? bound).2

/-! ### Marks and placeholders -/

theorem openMarks_of_readClosing? {text name behind : List Char}
    (read : readClosing? text = some (name, behind)) :
    openMarks true text = openMarks false behind := by
  fun_induction readClosing? text generalizing name with
  | case1 => cases read
  | case2 text ih =>
    obtain ⟨⟨shorter, left⟩, found, same⟩ := Option.map_eq_some_iff.1 read
    cases same
    rw [← ih found]
    simp [openMarks, quotedBehind]
  | case3 =>
    cases read
    simp [openMarks, quotedBehind]
  | case4 c text _ tick ih =>
    obtain ⟨⟨shorter, left⟩, found, same⟩ := Option.map_eq_some_iff.1 read
    cases same
    have other : c ≠ '\x60' := tick
    rw [← ih found]
    simp [openMarks, quotedBehind, other]

/-- No symbol goes on with a placeholder or a backtick. -/
theorem ne_of_continues {c d : Char} (within : continues c d) : d ≠ '?' ∧ d ≠ '\x60' := by
  have same := continues_eq within
  constructor <;> rintro rfl
  all_goals
    rw [← same] at within
    exact absurd within (by decide)

theorem neutral_symbol {c : Char} {letters : List Char} (plain : c ≠ '?' ∧ c ≠ '\x60')
    (within : letters.all (continues c)) : Neutral (c :: letters) := by
  have letter : ∀ d ∈ c :: letters, d ≠ '?' ∧ d ≠ '\x60' := by
    intro d inside
    rcases List.mem_cons.1 inside with rfl | later
    · exact plain
    · exact ne_of_continues (List.all_eq_true.1 within d later)
  generalize c :: letters = text at letter
  induction text with
  | nil => decide
  | cons d text ih =>
    obtain ⟨mark, tick⟩ := letter d List.mem_cons_self
    have later := ih fun e inside => letter e (List.mem_cons_of_mem _ inside)
    constructor
    · simp [openMarks, quotedBehind, mark, tick, later.openMarks_eq]
    · simpa [endsQuoted, quotedBehind, tick] using later.endsQuoted_eq

/-- **The marks among the lexemes of a text are its placeholders outside of quoted names.** -/
theorem openMarks_of_lex {text : List Char} {lexemes : List Lexeme}
    (read : lex text = some lexemes) : openMarks false text = lexemes.count .mark := by
  fun_induction lex text generalizing lexemes with
  | case1 =>
    cases read
    rfl
  | case2 rest ih =>
    rw [← ih read]
    simp [openMarks, quotedBehind]
  | case3 rest _ ih =>
    obtain ⟨later, found, rfl⟩ := Option.map_eq_some_iff.1 read
    rw [List.count_cons_self, ← ih found]
    simp [openMarks, quotedBehind, Nat.add_comm]
  | case4 rest name behind found _ _ ih =>
    obtain ⟨later, readBehind, rfl⟩ := Option.map_eq_some_iff.1 read
    rw [List.count_cons_of_ne (by simp), ← ih readBehind, ← openMarks_of_readClosing? found]
    simp [openMarks, quotedBehind]
  | case5 => cases read
  | case6 c rest blank mark tick ih =>
    obtain ⟨later, found, rfl⟩ := Option.map_eq_some_iff.1 read
    have whole : c :: rest = c :: rest.takeWhile (continues c) ++ rest.dropWhile (continues c) := by
      rw [List.cons_append, List.takeWhile_append_dropWhile]
    have symbol := neutral_symbol ⟨mark, tick⟩ (List.all_takeWhile (p := continues c) (l := rest))
    rw [List.count_cons_of_ne (by simp), ← ih found, whole, openMarks_append, symbol.openMarks_eq,
      symbol.endsQuoted_eq, Nat.zero_add]

theorem count_mark_lexemes (tokens : List Token) :
    (tokens.map Token.lexeme).count .mark = (values tokens).length := by
  induction tokens with
  | nil => rfl
  | cons token rest ih =>
    cases token with
    | name text | symbol text => simpa [Token.lexeme] using ih
    | value value => simpa [Token.lexeme] using ih

/-- **A text that is read has one placeholder outside of quoted names for each parameter.** -/
theorem openMarks_of_tokens? {sql : String} {params : List Value} {tokens : List Token}
    (read : tokens? sql params = some tokens) : openMarks false sql.toList = params.length := by
  obtain ⟨lexemes, found, bound⟩ := Option.bind_eq_some_iff.1 read
  obtain ⟨rfl, rfl⟩ := eq_of_bind? bound
  rw [openMarks_of_lex found, count_mark_lexemes]

/-! ### Numbers -/

theorem isLetter_of_isDigit {c : Char} (digit : c.isDigit) : isLetter c := by
  simp [isLetter, Char.isAlphanum, digit]

/-- The digits of a number are one symbol. -/
theorem lex_number (number : Nat) :
    lex (toString number).toList = some [.symbol (toString number)] := by
  have written : toString number = String.ofList (Nat.toDigits 10 number) :=
    Nat.toString_eq_ofList_toDigits
  have digits : ∀ c ∈ Nat.toDigits 10 number, c.isDigit := fun c inside =>
    Nat.isDigit_of_mem_toDigits (by decide) (by decide) inside
  have some : Nat.toDigits 10 number ≠ [] := Nat.toDigits_ne_nil
  obtain ⟨c, letters, same⟩ := List.exists_cons_of_ne_nil some
  rw [same] at written digits
  have letter := isLetter_of_isDigit (digits c List.mem_cons_self)
  have within : letters.all (continues c) := List.all_eq_true.2 fun d inside => by
    rw [continues, if_pos letter]
    exact isLetter_of_isDigit (digits d (List.mem_cons_of_mem _ inside))
  have plain : c ≠ ' ' ∧ c ≠ '?' ∧ c ≠ '\x60' := by
    refine ⟨?_, ?_, ?_⟩ <;> rintro rfl <;> exact absurd letter (by decide)
  have read := @lex_symbol c letters [] plain within (by simp)
  rw [List.append_nil, lex_nil] at read
  rw [written, String.toList_ofList, read]
  rfl

/-- The digits of a number are no word with a letter. -/
theorem number_ne {word : String} (letter : word.toList.all Char.isDigit = false) (number : Nat) :
    toString number ≠ word := by
  rintro rfl
  have digits : (toString number).toList.all Char.isDigit = true := by
    rw [Nat.toString_eq_repr, Nat.toList_repr, List.all_eq_true]
    exact fun c inside => Nat.isDigit_of_mem_toDigits (by decide) (by decide) inside
  rw [digits] at letter
  cases letter

/-! ### Where pieces meet -/

/-- Whether no lexeme reaches across the character. -/
def isApart (c : Char) : Bool := c != '\x60' && !isLetter c && !isSign c

theorem sticks_of_isApart_left {c d : Char} (apart : isApart c) : sticks c d = false := by
  simp only [isApart, Bool.and_eq_true, bne_iff_ne, Bool.not_eq_true'] at apart
  obtain ⟨⟨tick, letter⟩, sign⟩ := apart
  simp [sticks, continues, tick, letter, sign]

theorem sticks_of_boundary {c : Char} {rest : List Char} (boundary : Boundary rest) :
    ∀ d ∈ rest.head?, sticks c d = false := by
  intro d first
  simp [sticks, boundary.ends c d first, (boundary d first).1]

namespace Fragment

theorem toList_mark (value : Value) : (Piece.slot value).text.toList = ['?'] :=
  String.toList_singleton '?'

/-- The fragment does not go on with a lexeme that stands before it. -/
def Opens (fragment : Fragment) : Prop :=
  ∀ rest, Boundary rest → Boundary (fragment.text.toList ++ rest)

namespace Opens

theorem nil : Opens [] := fun _ boundary => boundary

theorem of_head (piece : Piece) {c : Char} {later : List Char}
    (starts : piece.text.toList = c :: later) (apart : isApart c) (fragment : Fragment) :
    Opens (piece :: fragment) := by
  intro rest _ d first
  rw [text_cons, String.toList_append, starts] at first
  cases first
  simp only [isApart, Bool.and_eq_true, bne_iff_ne, Bool.not_eq_true'] at apart
  exact ⟨apart.1.1, apart.1.2, apart.2⟩

theorem word_append {text : String} (apart : text.toList.head?.any isApart) (further : String)
    (fragment : Fragment) : Opens (.word (text ++ further) :: fragment) := by
  obtain ⟨c, first, holds⟩ := (Option.any_eq_true _ _).1 apart
  obtain ⟨later, starts⟩ := List.head?_eq_some_iff.1 first
  have written : (Piece.word (text ++ further)).text.toList = c :: (later ++ further.toList) := by
    rw [Piece.text, String.toList_append, starts, List.cons_append]
  exact of_head _ written holds fragment

theorem word {text : String} (apart : text.toList.head?.any isApart) (fragment : Fragment) :
    Opens (.word text :: fragment) := by
  have opens := word_append apart "" fragment
  rwa [String.append_empty] at opens

end Opens

/-- The fragment is read as the tokens, wherever a boundary follows. -/
structure Tells (fragment : Fragment) (tokens : List Token) : Prop where
  spells : fragment.Spells (tokens.map Token.lexeme)
  params_eq : fragment.params = values tokens

namespace Tells

variable {fragment left right : Fragment} {tokens first second : List Token}

theorem nil : Tells [] [] := ⟨fun rest _ => by simp, rfl⟩

theorem of_text_eq (same : left.text = right.text) (sameParams : left.params = right.params)
    (tells : right.Tells tokens) : left.Tells tokens :=
  ⟨fun rest boundary => by rw [same, tells.spells rest boundary], sameParams.trans tells.params_eq⟩

/-- A fragment that opens is read behind another one. -/
theorem append (before : left.Tells first) (opens : right.Opens) (behind : right.Tells second) :
    Tells (left ++ right) (first ++ second) := by
  constructor
  · rw [List.map_append]
    exact before.spells.append behind.spells opens
  · rw [params_append, values_append, before.params_eq, behind.params_eq]

theorem values_symbols (symbols : List String) : values (symbols.map .symbol) = [] :=
  List.filterMap_eq_nil_iff.2 fun token inside => by
    obtain ⟨symbol, -, rfl⟩ := List.mem_map.1 inside
    rfl

/-- A word is read on its own if no lexeme reaches from it into what follows. -/
theorem word_of_apart {text : String} {symbols : List String}
    (read : lex text.toList = some (symbols.map .symbol))
    (apart : ∀ rest, Boundary rest → ∀ c ∈ text.toList.getLast?,
      ∀ d ∈ (fragment.text.toList ++ rest).head?, sticks c d = false)
    (later : fragment.Tells tokens) :
    Tells (.word text :: fragment) (symbols.map .symbol ++ tokens) := by
  constructor
  · intro rest boundary
    rw [text_cons, String.toList_append, List.append_assoc]
    refine (lex_append read (apart rest boundary)).trans ?_
    rw [later.spells rest boundary, Option.map_map, List.map_append, List.map_map]
    congr 1
    funext lexemes
    exact (List.append_assoc _ _ _).symm
  · rw [values_append, values_symbols]
    exact later.params_eq

/-- A word is read on its own if its last character ends every lexeme. -/
theorem word {text : String} (symbols : List String)
    (read : lex text.toList = some (symbols.map .symbol) ∧ text.toList.getLast?.all isApart)
    (later : fragment.Tells tokens) :
    Tells (.word text :: fragment) (symbols.map .symbol ++ tokens) := by
  refine word_of_apart read.1 (fun rest _ c last d _ => ?_) later
  have closed := read.2
  rw [show text.toList.getLast? = some c from last] at closed
  exact sticks_of_isApart_left closed

/-- A word is read on its own if what follows opens. -/
theorem word_of_opens {text : String} {symbols : List String}
    (read : lex text.toList = some (symbols.map .symbol)) (opens : fragment.Opens)
    (later : fragment.Tells tokens) :
    Tells (.word text :: fragment) (symbols.map .symbol ++ tokens) :=
  word_of_apart read (fun rest boundary _ _ => sticks_of_boundary (opens rest boundary)) later

theorem name (text : String) (opens : fragment.Opens) (later : fragment.Tells tokens) :
    Tells (.identifier text :: fragment) (.name text :: tokens) := by
  constructor
  · intro rest boundary
    rw [text_cons, String.toList_append, List.append_assoc]
    refine (lex_quote text (opens rest boundary).apart).trans ?_
    rw [later.spells rest boundary, Option.map_map]
    rfl
  · exact later.params_eq

theorem slot (value : Value) (later : fragment.Tells tokens) :
    Tells (.slot value :: fragment) (.value value :: tokens) := by
  constructor
  · intro rest boundary
    rw [text_cons, String.toList_append, List.append_assoc, toList_mark,
      List.singleton_append, lex_mark]
    rw [later.spells rest boundary, Option.map_map]
    rfl
  · exact congrArg (value :: ·) later.params_eq

/-- Fragments with the same symbol between neighbours. -/
theorem join {separator symbol : String} (opens : separator.toList.head?.any isApart)
    (read : lex separator.toList = some [.symbol symbol] ∧ separator.toList.getLast?.all isApart)
    {fragments : List Fragment} {parts : List (List Token)}
    (tells : List.Forall₂ Tells fragments parts) :
    Tells (Fragment.join separator fragments) ([Token.symbol symbol].intercalate parts) := by
  induction tells with
  | nil => exact nil
  | @cons fragment part fragments parts here later ih =>
    cases later with
    | nil => simpa [Fragment.join] using here
    | cons next others =>
      rw [Fragment.join, List.intercalate_cons_cons, List.intercalate_cons_cons, List.append_assoc,
        List.append_assoc]
      exact here.append (.word opens _) (.word [symbol] read ih)

/-- Fragments with commas between them. -/
theorem commas {α : Type} {write : α → Fragment} {read : α → List Token} {list : List α}
    (tells : ∀ element ∈ list, (write element).Tells (read element)) :
    Tells (Fragment.join ", " (list.map write)) (Sql.commas (list.map read)) := by
  refine join (by decide) (by decide +kernel) ?_
  rw [List.forall₂_map_left_iff, List.forall₂_map_right_iff]
  exact List.forall₂_same.2 tells

/-- **The text of a fragment and its parameters are read as its tokens.** -/
theorem tokens?_eq (tells : fragment.Tells tokens) :
    tokens? fragment.text fragment.params = some tokens := by
  have whole := tells.spells [] Boundary.nil
  rw [List.append_nil, lex_nil, Option.map_some, List.append_nil] at whole
  rw [tokens?, whole, tells.params_eq]
  exact bind?_lexemes tokens

/-- Nothing is read as no tokens. -/
theorem eq_nil (tells : Tells [] tokens) : tokens = [] := by
  have read := tells.tokens?_eq
  have none : tokens? (text []) (params []) = some [] := by
    show (lex []).bind _ = _
    rw [lex_nil]
    rfl
  exact (Option.some.inj (none.symm.trans read)).symm

end Tells

end Fragment

end SqlCraft.Sql
