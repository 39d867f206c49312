/-
**Reading string literals.**

A database reads a string up to a quote that is neither doubled nor behind a backslash. A backslash makes
an escape with the character behind it, except before a percent sign or a low line, where it stands for
itself. A literal is written by doubling the quotes alone, so a text is read back from its literal as long
as all of its backslashes stand for themselves, and otherwise never:

* `readString?` — the text of a literal, and what stands behind it;
* `keepsBackslashes` — whether all backslashes of a text stand for themselves;
* `readLiteral?_of_keepsBackslashes` — such a text is read back;
* `keepsBackslashes_of_readLiteral?` — and no other text is, whatever stands behind it.
-/

import SqlCraft.Table.Definition

namespace SqlCraft.Sql

/-! ### The reader -/

/-- What a backslash and the character behind it stand for. -/
def escaped : Char → List Char
  | '0' => ['\x00']
  | 'b' => ['\x08']
  | 'n' => ['\n']
  | 'r' => ['\r']
  | 't' => ['\t']
  | 'Z' => ['\x1a']
  | '%' => ['\\', '%']
  | '_' => ['\\', '_']
  | c => [c]

/-- Reads a string up to the mark that closes it; its text and what stands behind it. A mark that stands
twice is one mark of the text. -/
def readString? (mark : Char) : List Char → Option (List Char × List Char)
  | [] => none
  | [c] => if c = mark then some ([], []) else none
  | c :: d :: rest =>
    if c = mark then
      if d = mark then (readString? mark rest).map fun (text, behind) => (mark :: text, behind)
      else some ([], d :: rest)
    else if c = '\\' then
      (readString? mark rest).map fun (text, behind) => (escaped d ++ text, behind)
    else (readString? mark (d :: rest)).map fun (text, behind) => (c :: text, behind)

/-- Reads a string literal; its text and what stands behind it. -/
def readText? : List Char → Option (String × List Char)
  | '\'' :: rest => (readString? '\'' rest).map fun read => (String.ofList read.1, read.2)
  | _ => none

/-- What stands behind a string is shorter than what was read. -/
theorem readString?_length {mark : Char} {text value behind : List Char}
    (read : readString? mark text = some (value, behind)) : behind.length < text.length := by
  fun_induction readString? mark text generalizing value with
  | case1 => cases read
  | case2 => cases read; simp
  | case3 => cases read
  | case4 rest ih | case6 _ rest _ ih | case7 _ _ rest _ _ ih =>
    obtain ⟨⟨shorter, left⟩, found, same⟩ := Option.map_eq_some_iff.1 read
    cases same
    have := ih found
    simp only [List.length_cons] at this ⊢
    omega
  | case5 => cases read; simp

section Steps

variable {mark : Char}

theorem readString?_doubled (rest : List Char) : readString? mark (mark :: mark :: rest) =
    (readString? mark rest).map fun (text, behind) => (mark :: text, behind) := by
  rw [readString?, if_pos rfl, if_pos rfl]

theorem readString?_closing {rest : List Char} (apart : rest.head? ≠ some mark) :
    readString? mark (mark :: rest) = some ([], rest) := by
  cases rest with
  | nil => rw [readString?, if_pos rfl]
  | cons c rest =>
    have other : c ≠ mark := fun same => apart (congrArg some same)
    rw [readString?, if_pos rfl, if_neg other]

theorem readString?_escape (other : mark ≠ '\\') (c : Char) (rest : List Char) :
    readString? mark ('\\' :: c :: rest) =
      (readString? mark rest).map fun (text, behind) => (escaped c ++ text, behind) := by
  rw [readString?, if_neg other.symm, if_pos rfl]

theorem readString?_plain {c : Char} (other : c ≠ mark) (plain : c ≠ '\\') (rest : List Char) :
    readString? mark (c :: rest) =
      (readString? mark rest).map fun (text, behind) => (c :: text, behind) := by
  cases rest with
  | nil => simp [readString?, other]
  | cons d rest => rw [readString?, if_neg other, if_neg plain]

end Steps

/-! ### Literals -/

/-- A text inside the quotes of its literal. -/
def doubleQuotes (text : List Char) : List Char :=
  text.flatMap fun c => if c = '\'' then ['\'', '\''] else [c]

theorem doubleQuotes_quote (text : List Char) :
    doubleQuotes ('\'' :: text) = '\'' :: '\'' :: doubleQuotes text := rfl

theorem doubleQuotes_cons_of_ne {c : Char} (other : c ≠ '\'') (text : List Char) :
    doubleQuotes (c :: text) = c :: doubleQuotes text := by
  simp [doubleQuotes, other]

theorem toList_stringLiteral_append (text : String) (rest : List Char) :
    (stringLiteral text).toList ++ rest = '\'' :: (doubleQuotes text.toList ++ '\'' :: rest) := by
  rw [stringLiteral, String.toList_ofList, List.cons_append, List.cons_append, List.append_assoc]
  rfl

/-- Reads the literal of a text, from behind its opening quote on, with more behind it. -/
def readLiteral? (text rest : List Char) : Option (List Char × List Char) :=
  readString? '\'' (doubleQuotes text ++ '\'' :: rest)

section Literal

variable {rest : List Char}

theorem readLiteral?_nil (apart : rest.head? ≠ some '\'') : readLiteral? [] rest = some ([], rest) :=
  readString?_closing apart

/-- A character other than a backslash is read back. -/
theorem readLiteral?_cons {c : Char} (plain : c ≠ '\\') (text : List Char) :
    readLiteral? (c :: text) rest =
      (readLiteral? text rest).map fun (value, behind) => (c :: value, behind) := by
  unfold readLiteral?
  by_cases quoted : c = '\''
  · rw [quoted, doubleQuotes_quote, List.cons_append, List.cons_append, readString?_doubled]
  · rw [doubleQuotes_cons_of_ne quoted, List.cons_append, readString?_plain quoted plain]

/-- A backslash takes the first of what is written for the character behind it. -/
theorem readLiteral?_escape {c : Char} (other : c ≠ '\'') (text : List Char) :
    readLiteral? ('\\' :: c :: text) rest =
      (readLiteral? text rest).map fun (value, behind) => (escaped c ++ value, behind) := by
  unfold readLiteral?
  rw [doubleQuotes_cons_of_ne (by decide), doubleQuotes_cons_of_ne other, List.cons_append,
    List.cons_append, readString?_escape (by decide)]

end Literal

/-- Every backslash stands before a percent sign or a low line. -/
def keepsBackslashes : List Char → Bool
  | [] => true
  | '\\' :: c :: rest => decide (c = '%' ∨ c = '_') && keepsBackslashes rest
  | ['\\'] => false
  | _ :: rest => keepsBackslashes rest

/-- The last case of the recursion on a text: its first character is not a backslash. -/
theorem ne_backslash_of_cases {c : Char} {text : List Char}
    (paired : ∀ d rest, c = '\\' → text = d :: rest → False) (single : c = '\\' → text = [] → False) :
    c ≠ '\\' := by
  intro same
  cases text with
  | nil => exact single same rfl
  | cons d rest => exact paired d rest same rfl

theorem escaped_of_kept {c : Char} (kept : c = '%' ∨ c = '_') : escaped c = ['\\', c] := by
  rcases kept with rfl | rfl <;> rfl

/-- Of all escapes, only three stand for something that begins with a backslash. -/
theorem escaped_eq_cons {c : Char} (other : c ≠ '\\') (folded : ¬(c = '%' ∨ c = '_')) :
    ∃ d later, escaped c = d :: later ∧ d ≠ '\\' := by
  unfold escaped
  split <;> simp_all

/-- **A text whose backslashes stand for themselves is read back from its literal.** -/
theorem readLiteral?_of_keepsBackslashes {text rest : List Char} (keeps : keepsBackslashes text)
    (apart : rest.head? ≠ some '\'') : readLiteral? text rest = some (text, rest) := by
  -- Like the reader, the recursion takes a backslash together with the character behind it.
  fun_induction keepsBackslashes text with
  | case1 => exact readLiteral?_nil apart
  | case2 c text ih =>
    rw [Bool.and_eq_true, decide_eq_true_iff] at keeps
    obtain ⟨kept, later⟩ := keeps
    have other : c ≠ '\'' := by rcases kept with rfl | rfl <;> decide
    rw [readLiteral?_escape other, ih later, escaped_of_kept kept]
    rfl
  | case3 => cases keeps
  | case4 c text paired single ih =>
    have plain := ne_backslash_of_cases paired single
    rw [readLiteral?_cons plain, ih keeps]
    rfl

/-! ### The converse -/

section Converse

variable {text rest value behind : List Char}

theorem readLiteral?_cons_inv {c : Char} (plain : c ≠ '\\')
    (read : readLiteral? (c :: text) rest = some (value, behind)) :
    ∃ later, readLiteral? text rest = some (later, behind) ∧ value = c :: later := by
  rw [readLiteral?_cons plain] at read
  obtain ⟨⟨later, _⟩, found, same⟩ := Option.map_eq_some_iff.1 read
  cases same
  exact ⟨later, found, rfl⟩

/-- What is read for a backslash and the character behind it: one backslash for two, both before a percent
sign or a low line, and else no backslash at all. -/
theorem readLiteral?_escape_inv {c : Char}
    (read : readLiteral? ('\\' :: c :: text) rest = some (value, behind)) :
    (∃ later, readLiteral? text rest = some (later, behind) ∧
      (c = '\\' ∧ value = '\\' :: later ∨ (c = '%' ∨ c = '_') ∧ value = '\\' :: c :: later)) ∨
    ∃ d later, value = d :: later ∧ d ≠ '\\' := by
  by_cases quoted : c = '\''
  · subst quoted
    rw [readLiteral?, doubleQuotes_cons_of_ne (by decide), doubleQuotes_quote, List.cons_append,
      List.cons_append, readString?_escape (by decide)] at read
    obtain ⟨⟨later, _⟩, -, same⟩ := Option.map_eq_some_iff.1 read
    cases same
    exact .inr ⟨'\'', later, rfl, by decide⟩
  rw [readLiteral?_escape quoted] at read
  obtain ⟨⟨later, _⟩, found, same⟩ := Option.map_eq_some_iff.1 read
  cases same
  by_cases folded : c = '\\'
  · subst folded
    exact .inl ⟨later, found, .inl ⟨rfl, rfl⟩⟩
  by_cases kept : c = '%' ∨ c = '_'
  · exact .inl ⟨later, found, .inr ⟨kept, escaped_of_kept kept ▸ rfl⟩⟩
  obtain ⟨d, others, begins, other⟩ := escaped_eq_cons folded kept
  exact .inr ⟨d, others ++ later, begins ▸ rfl, other⟩

/-- A backslash at the end takes the closing quote with it. -/
theorem readLiteral?_last_inv (read : readLiteral? ['\\'] rest = some (value, behind)) :
    ∃ later, value = '\'' :: later := by
  have step : readLiteral? ['\\'] rest =
      (readString? '\'' rest).map fun (later, behind) => ('\'' :: later, behind) :=
    readString?_escape (by decide) '\'' rest
  rw [step] at read
  obtain ⟨⟨later, _⟩, -, same⟩ := Option.map_eq_some_iff.1 read
  cases same
  exact ⟨later, rfl⟩

/-- How many backslashes a text begins with. -/
def leadingBackslashes : List Char → Nat
  | '\\' :: rest => leadingBackslashes rest + 1
  | _ => 0

theorem leadingBackslashes_of_ne {c : Char} (other : c ≠ '\\') (rest : List Char) :
    leadingBackslashes (c :: rest) = 0 := by
  rw [leadingBackslashes]
  simpa using other

/-- What is read begins with no more backslashes than the text: none of them gives more than one. -/
theorem leadingBackslashes_le_of_readLiteral? (apart : rest.head? ≠ some '\'')
    (read : readLiteral? text rest = some (value, behind)) :
    leadingBackslashes value ≤ leadingBackslashes text := by
  fun_induction keepsBackslashes text generalizing value behind with
  | case1 =>
    rw [readLiteral?_nil apart] at read
    cases read
    exact Nat.le_refl _
  | case2 c text ih =>
    rcases readLiteral?_escape_inv read with
      ⟨later, found, ⟨rfl, rfl⟩ | ⟨kept, rfl⟩⟩ | ⟨d, later, rfl, other⟩
    · have := ih found
      simp only [leadingBackslashes]
      omega
    · have other : c ≠ '\\' := by rcases kept with rfl | rfl <;> decide
      simp only [leadingBackslashes, leadingBackslashes_of_ne other, Nat.le_refl]
    · rw [leadingBackslashes_of_ne other]
      exact Nat.zero_le _
  | case3 =>
    obtain ⟨later, rfl⟩ := readLiteral?_last_inv read
    rw [leadingBackslashes_of_ne (by decide)]
    exact Nat.zero_le _
  | case4 c text paired single ih =>
    have plain := ne_backslash_of_cases paired single
    obtain ⟨later, -, rfl⟩ := readLiteral?_cons_inv plain read
    rw [leadingBackslashes_of_ne plain]
    exact Nat.zero_le _

/-- **No other text is read from its literal.** Two backslashes in a row are read as one, and what stands
behind them does not make up for the other. -/
theorem keepsBackslashes_of_readLiteral? (apart : rest.head? ≠ some '\'')
    (read : readLiteral? text rest = some (text, behind)) : keepsBackslashes text := by
  fun_induction keepsBackslashes text generalizing behind with
  | case1 => rfl
  | case2 c text ih =>
    rcases readLiteral?_escape_inv read with
      ⟨later, found, ⟨rfl, same⟩ | ⟨kept, same⟩⟩ | ⟨d, later, same, other⟩
    · have longer := leadingBackslashes_le_of_readLiteral? apart found
      rw [← (List.cons.inj same).2, leadingBackslashes] at longer
      omega
    · cases same
      rw [Bool.and_eq_true, decide_eq_true_iff]
      exact ⟨kept, ih found⟩
    · exact absurd (List.cons.inj same).1.symm other
  | case3 =>
    obtain ⟨later, same⟩ := readLiteral?_last_inv read
    cases same
  | case4 c text paired single ih =>
    have plain := ne_backslash_of_cases paired single
    obtain ⟨later, found, same⟩ := readLiteral?_cons_inv plain read
    cases same
    exact ih found

end Converse

/-- A text is read back from its literal, up to the quote that closes it, if all backslashes of the text
stand for themselves, and only then. -/
theorem readText?_stringLiteral (text : String) {rest : List Char} (apart : rest.head? ≠ some '\'') :
    readText? ((stringLiteral text).toList ++ rest) = some (text, rest) ↔
      keepsBackslashes text.toList := by
  rw [toList_stringLiteral_append, readText?]
  change (readLiteral? text.toList rest).map _ = _ ↔ _
  constructor
  · intro read
    obtain ⟨⟨found, behind⟩, closes, same⟩ := Option.map_eq_some_iff.1 read
    obtain rfl : found = text.toList := by rw [← (Prod.mk.inj same).1, String.toList_ofList]
    exact keepsBackslashes_of_readLiteral? apart closes
  · intro keeps
    rw [readLiteral?_of_keepsBackslashes keeps apart, Option.map_some, String.ofList_toList]

end SqlCraft.Sql
