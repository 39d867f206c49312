/-
**Reading statements with string literals.**

A statement is read from the left: a backtick opens a name, a quote of either kind opens a string, and
every other character stands for itself. So a string that is not closed where it should be takes what
follows it with it, and all that is read behind it is something else.

* `segments?` — the characters, names and strings of a text, unless one of its quotes is not closed;
* `segments?_append` — texts are read one after the other, unless a quote follows the first;
* `Told` — a text is read as the segments that were meant if it is sound, and only then.
-/

import SqlCraft.Proofs.Sql.QuotedName
import SqlCraft.Proofs.Sql.StringLiteral

namespace SqlCraft.Sql

/-- What a statement consists of. -/
inductive Segment where
  /-- A character outside of quotes. -/
  | sign (c : Char)
  | name (text : String)
  | literal (text : String)
deriving DecidableEq

/-- Whether a character opens a name or a string. -/
def isQuote (c : Char) : Bool := c == '\x60' || c == '\'' || c == '"'

/-- The segments of a text. -/
def segments? : List Char → Option (List Segment)
  | [] => some []
  | c :: rest =>
    if c = '\x60' then
      match _found : readClosing? rest with
      | some (name, behind) => (segments? behind).map (.name (String.ofList name) :: ·)
      | none => none
    else if isQuote c then
      match _found : readString? c rest with
      | some (text, behind) => (segments? behind).map (.literal (String.ofList text) :: ·)
      | none => none
    else (segments? rest).map (.sign c :: ·)
termination_by text => text.length
decreasing_by
  · have := readClosing?_length _found
    simp only [List.length_cons]
    omega
  · have := readString?_length _found
    simp only [List.length_cons]
    omega
  · simp

/-! ### Single segments -/

theorem segments?_nil : segments? [] = some [] := by rw [segments?]

theorem segments?_sign {c : Char} (plain : isQuote c = false) (rest : List Char) :
    segments? (c :: rest) = (segments? rest).map (.sign c :: ·) := by
  have other : c ≠ '\x60' := by
    rintro rfl
    cases plain
  rw [segments?, if_neg other, if_neg (Bool.eq_false_iff.1 plain)]

theorem segments?_name {rest name behind : List Char} (found : readClosing? rest = some (name, behind)) :
    segments? ('\x60' :: rest) = (segments? behind).map (.name (String.ofList name) :: ·) := by
  rw [segments?, if_pos rfl]
  split <;> simp_all

/-- What is read behind a quote that opens a string. -/
theorem segments?_string {mark : Char} (opens : mark ≠ '\x60' ∧ isQuote mark) (rest : List Char) :
    segments? (mark :: rest) = (readString? mark rest).bind fun read =>
      (segments? read.2).map (.literal (String.ofList read.1) :: ·) := by
  rw [segments?, if_neg opens.1, if_pos opens.2]
  split <;> simp_all

/-! ### Texts one after the other -/

theorem readString?_append {mark : Char} {text value behind rest : List Char}
    (read : readString? mark text = some (value, behind))
    (apart : behind = [] → rest.head? ≠ some mark) :
    readString? mark (text ++ rest) = some (value, behind ++ rest) := by
  fun_induction readString? mark text generalizing value with
  | case1 => cases read
  | case2 =>
    cases read
    exact readString?_closing (apart rfl)
  | case3 => cases read
  | case4 text ih =>
    obtain ⟨⟨shorter, left⟩, found, same⟩ := Option.map_eq_some_iff.1 read
    cases same
    rw [List.cons_append, List.cons_append, readString?_doubled, ih found]
    rfl
  | case5 d text other =>
    cases read
    exact readString?_closing (by simpa using other)
  | case6 d text other ih =>
    obtain ⟨⟨shorter, left⟩, found, same⟩ := Option.map_eq_some_iff.1 read
    cases same
    rw [List.cons_append, List.cons_append, readString?_escape (Ne.symm other), ih found]
    rfl
  | case7 c d text other plain ih =>
    obtain ⟨⟨shorter, left⟩, found, same⟩ := Option.map_eq_some_iff.1 read
    cases same
    rw [List.cons_append, readString?_plain other plain, ih found]
    rfl

/-- Nothing follows that goes on with a name or a string, or opens one. -/
def Unquoted (text : List Char) : Prop := ∀ c ∈ text.head?, isQuote c = false

instance (text : List Char) : Decidable (Unquoted text) :=
  @Option.decidableForallMem _ (fun c => isQuote c = false) _ text.head?

theorem Unquoted.append {text rest : List Char} (here : Unquoted text) (behind : Unquoted rest) :
    Unquoted (text ++ rest) := by
  cases text with
  | nil => exact behind
  | cons c text => exact here

theorem Unquoted.head?_ne {rest : List Char} (apart : Unquoted rest) {mark : Char}
    (quote : isQuote mark) : rest.head? ≠ some mark := fun first =>
  Bool.eq_false_iff.1 (apart mark first) quote

/-- **Texts are read one after the other** if no quote follows the first. -/
theorem segments?_append {text rest : List Char} {found : List Segment} (read : segments? text = some found)
    (apart : Unquoted rest) : segments? (text ++ rest) = (segments? rest).map (found ++ ·) := by
  fun_induction segments? text generalizing found with
  | case1 =>
    cases read
    simp
  | case2 text name behind closed ih =>
    obtain ⟨segments, later, rfl⟩ := Option.map_eq_some_iff.1 read
    have closes := readClosing?_append closed fun _ => apart.head?_ne rfl
    rw [List.cons_append, segments?_name closes, ih later, Option.map_map]
    rfl
  | case3 => cases read
  | case4 mark text other quote value behind closed ih =>
    obtain ⟨segments, later, rfl⟩ := Option.map_eq_some_iff.1 read
    have closes := readString?_append closed fun _ => apart.head?_ne quote
    rw [List.cons_append, segments?_string ⟨other, quote⟩, closes, Option.bind_some, ih later,
      Option.map_map]
    rfl
  | case5 => cases read
  | case6 c text _ plain ih =>
    obtain ⟨segments, later, rfl⟩ := Option.map_eq_some_iff.1 read
    rw [List.cons_append, segments?_sign (Bool.eq_false_iff.2 plain), ih later, Option.map_map]
    rfl

/-! ### Texts that tell what was meant -/

/-- Wherever a text stands before anything but a quote, the segments meant are read from it, and then what
follows, if it is sound; and only then. -/
def Told (text : List Char) (sound : Prop) (meant : List Segment) : Prop :=
  ∀ (rest : List Char) (more : List Segment), Unquoted rest →
    (segments? (text ++ rest) = some (meant ++ more) ↔ sound ∧ segments? rest = some more)

namespace Told

variable {text later : List Char} {sound further : Prop} {meant others : List Segment}

theorem of_iff {both : Prop} (told : Told text sound meant) (same : sound ↔ both) :
    Told text both meant := propext same ▸ told

theorem nil : Told [] True [] := fun _ _ _ => by simp

theorem append (first : Told text sound meant) (second : Told later further others)
    (apart : Unquoted later) : Told (text ++ later) (sound ∧ further) (meant ++ others) := by
  intro rest more free
  rw [List.append_assoc, List.append_assoc, first _ _ (apart.append free), second _ _ free, and_assoc]

/-- A text without quotes says what it is, whatever stands behind it. -/
theorem plain_append {word : List Char} (plain : ∀ c ∈ word, isQuote c = false)
    (told : Told text sound meant) : Told (word ++ text) sound (word.map .sign ++ meant) := by
  intro rest more free
  rw [← told rest more free, List.append_assoc, List.append_assoc]
  induction word with
  | nil => rfl
  | cons c word ih =>
    rw [List.cons_append, segments?_sign (plain c List.mem_cons_self), List.map_cons, List.cons_append,
      ← ih fun d inside => plain d (List.mem_cons_of_mem _ inside)]
    simp

theorem plain {word : List Char} (plain : ∀ c ∈ word, isQuote c = false) :
    Told word True (word.map .sign) := by
  have told := nil.plain_append plain
  rwa [List.append_nil, List.append_nil] at told

/-- A text in which every quote is closed is read on its own. -/
theorem closed (read : segments? text = some meant) : Told text True meant := by
  intro rest more free
  rw [segments?_append read free, true_and, Option.map_eq_some_iff]
  constructor
  · rintro ⟨found, behind, same⟩
    rw [behind, List.append_cancel_left same]
  · exact fun behind => ⟨more, behind, rfl⟩

theorem quote (name : String) : Told (quote name).toList True [.name name] := by
  refine closed ?_
  have closes : readClosing? (doubleBackticks name.toList ++ '\x60' :: []) = some (name.toList, []) :=
    readClosing?_doubleBackticks name.toList (by simp)
  have read := toList_quote_append name []
  rw [List.append_nil] at read
  rw [read, segments?_name closes, segments?_nil, String.ofList_toList]
  rfl

/-- **A literal tells its text if the backslashes in it stand for themselves, and only then.** -/
theorem literal (value : String) :
    Told (stringLiteral value).toList (keepsBackslashes value.toList) [.literal value] := by
  intro rest more free
  have apart : rest.head? ≠ some '\'' := free.head?_ne rfl
  rw [toList_stringLiteral_append, segments?_string (by decide)]
  change (readLiteral? value.toList rest).bind _ = _ ↔ _
  constructor
  · intro read
    obtain ⟨⟨found, behind⟩, closes, later⟩ := Option.bind_eq_some_iff.1 read
    obtain ⟨segments, readBehind, same⟩ := Option.map_eq_some_iff.1 later
    obtain ⟨first, others⟩ := List.cons.inj same
    obtain rfl : found = value.toList := by
      rw [← Segment.literal.inj first, String.toList_ofList]
    have keeps := keepsBackslashes_of_readLiteral? apart closes
    obtain rfl : rest = behind := by
      rw [readLiteral?_of_keepsBackslashes keeps apart] at closes
      exact (Prod.mk.inj (Option.some.inj closes)).2
    exact ⟨keeps, readBehind.trans (congrArg some others)⟩
  · rintro ⟨keeps, behind⟩
    rw [readLiteral?_of_keepsBackslashes keeps apart, Option.bind_some, behind, String.ofList_toList]
    rfl

end Told

end SqlCraft.Sql
