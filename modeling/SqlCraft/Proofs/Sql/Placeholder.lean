/-
**Placeholders outside of quoted names.**

A question mark inside quotes is part of a name. A text is looked through from left to right, and each
backtick turns quoting on or off; one that is written twice turns it off and on again.

* `openMarks` — the number of placeholders outside of quoted names;
* `fillMark`, `fill` — a text with the first of them replaced;
* `openMarks_replace` — replacing inside of quotes changes the number of no placeholders;
* `Neutral` — text without such placeholders that leaves no name open, like every quoted name;
* `Fragment.Plain` — fragments whose words are neutral: their placeholders are their slots
  (`Fragment.Plain.openMarks_text`).
-/

import SqlCraft.Proofs.Sql.Lexeme

namespace SqlCraft.Sql

/-- Whether text is quoted behind a character. -/
def quotedBehind (quoted : Bool) (c : Char) : Bool := if c = '\x60' then !quoted else quoted

/-- Whether text is quoted behind another text. -/
def endsQuoted (quoted : Bool) (text : List Char) : Bool := text.foldl quotedBehind quoted

/-- The number of placeholders that stand outside of quoted names. -/
def openMarks (quoted : Bool) : List Char → Nat
  | [] => 0
  | c :: rest => (if c = '?' ∧ !quoted then 1 else 0) + openMarks (quotedBehind quoted c) rest

/-- A text with a filling for the first placeholder that stands outside of quoted names. -/
def fillMark (filling : List Char) (quoted : Bool) : List Char → List Char
  | [] => []
  | c :: rest =>
    if c = '?' ∧ !quoted then filling ++ rest
    else c :: fillMark filling (quotedBehind quoted c) rest

theorem endsQuoted_append (quoted : Bool) (left right : List Char) :
    endsQuoted quoted (left ++ right) = endsQuoted (endsQuoted quoted left) right :=
  List.foldl_append

theorem openMarks_append (quoted : Bool) (left right : List Char) :
    openMarks quoted (left ++ right) =
      openMarks quoted left + openMarks (endsQuoted quoted left) right := by
  induction left generalizing quoted with
  | nil => exact (Nat.zero_add _).symm
  | cons c left ih => rw [List.cons_append, openMarks, ih, openMarks, Nat.add_assoc]; rfl

/-- The first placeholder stands behind text that has none. -/
theorem fillMark_append (filling : List Char) {quoted : Bool} {left : List Char}
    (none : openMarks quoted left = 0) (right : List Char) :
    fillMark filling quoted (left ++ right) =
      left ++ fillMark filling (endsQuoted quoted left) right := by
  induction left generalizing quoted with
  | nil => rfl
  | cons c left ih =>
    rw [openMarks, Nat.add_eq_zero_iff] at none
    have other : ¬ (c = '?' ∧ !quoted) := fun mark => by simp [mark] at none
    rw [List.cons_append, fillMark, if_neg other, ih none.2]
    rfl

/-! ### Quoted text -/

/-- Quoted text without backticks has no placeholder and stays quoted. -/
theorem quoted_of_not_mem {text : List Char} (apart : '\x60' ∉ text) :
    openMarks true text = 0 ∧ endsQuoted true text = true := by
  induction text with
  | nil => exact ⟨rfl, rfl⟩
  | cons c text ih =>
    rw [List.mem_cons, not_or] at apart
    obtain ⟨none, inside⟩ := ih apart.2
    have stays : quotedBehind true c = true := if_neg (Ne.symm apart.1)
    rw [openMarks, endsQuoted, List.foldl_cons, stays, none]
    exact ⟨by simp, inside⟩

/-- A pattern with a placeholder that counts nowhere stands in quotes, where it can be replaced. -/
theorem openMarks_replace {before pattern replacement : List Char} (behind : List Char)
    (marked : openMarks false pattern ≠ 0) (apart : '\x60' ∉ pattern)
    (apartToo : '\x60' ∉ replacement) (none : openMarks false (before ++ pattern) = 0) :
    openMarks false (before ++ (replacement ++ behind)) =
      openMarks false (before ++ (pattern ++ behind)) := by
  rw [openMarks_append, Nat.add_eq_zero_iff] at none
  have quoted : endsQuoted false before = true := by
    cases state : endsQuoted false before with
    | true => rfl
    | false =>
      rw [state] at none
      exact absurd none.2 marked
  have old := quoted_of_not_mem apart
  have new := quoted_of_not_mem apartToo
  simp only [openMarks_append, quoted, old, new]

/-! ### Neutral text -/

/-- Text that has no placeholder outside of quoted names, and in which every name ends. -/
structure Neutral (text : List Char) : Prop where
  openMarks_eq : openMarks false text = 0
  endsQuoted_eq : endsQuoted false text = false

instance (text : List Char) : Decidable (Neutral text) :=
  decidable_of_iff (openMarks false text = 0 ∧ endsQuoted false text = false)
    ⟨fun both => ⟨both.1, both.2⟩, fun neutral => ⟨neutral.1, neutral.2⟩⟩

namespace Neutral

theorem append {left right : List Char} (first : Neutral left) (second : Neutral right) :
    Neutral (left ++ right) := by
  constructor
  · rw [openMarks_append, first.openMarks_eq, first.endsQuoted_eq, second.openMarks_eq]
  · rw [endsQuoted_append, first.endsQuoted_eq, second.endsQuoted_eq]

/-- Inside quotes, the characters of a name neither end it nor hold a placeholder. -/
theorem doubleBackticks (name : List Char) :
    openMarks true (Sql.doubleBackticks name) = 0 ∧
      endsQuoted true (Sql.doubleBackticks name) = true := by
  induction name with
  | nil => exact ⟨rfl, rfl⟩
  | cons c name ih =>
    by_cases tick : c = '\x60'
    · rw [tick, doubleBackticks_backtick]
      -- The first of the two backticks turns quoting off, the second turns it on again.
      have marks : openMarks true ('\x60' :: '\x60' :: Sql.doubleBackticks name) =
          0 + (0 + openMarks true (Sql.doubleBackticks name)) := rfl
      rw [marks, Nat.zero_add, Nat.zero_add]
      exact ih
    · rw [doubleBackticks_cons_of_ne tick, openMarks, endsQuoted, List.foldl_cons, quotedBehind,
        if_neg tick, ih.1]
      exact ⟨by simp, ih.2⟩

/-- **Quoted names are neutral, whatever characters they have.** -/
theorem quote (name : String) : Neutral (Sql.quote name).toList := by
  obtain ⟨none, inside⟩ := doubleBackticks name.toList
  rw [← List.append_nil (Sql.quote name).toList, toList_quote_append]
  constructor
  · have opened : openMarks false ('\x60' :: (Sql.doubleBackticks name.toList ++ ['\x60'])) =
        0 + openMarks true (Sql.doubleBackticks name.toList ++ ['\x60']) := rfl
    rw [opened, openMarks_append, none, inside]
    rfl
  · show endsQuoted true (Sql.doubleBackticks name.toList ++ ['\x60']) = false
    rw [endsQuoted_append, inside]
    rfl

/-- A placeholder between neutral texts is the only one. -/
theorem openMarks_between {left right : List Char} (first : Neutral left) (second : Neutral right) :
    openMarks false (left ++ '?' :: right) = 1 := by
  rw [openMarks_append, first.openMarks_eq, first.endsQuoted_eq]
  show 0 + (1 + openMarks false right) = 1
  rw [second.openMarks_eq]

/-- Between neutral texts, the placeholder is what is filled. -/
theorem fillMark_between {left : List Char} (first : Neutral left) (filling right : List Char) :
    fillMark filling false (left ++ '?' :: right) = left ++ filling ++ right := by
  rw [fillMark_append filling first.openMarks_eq, first.endsQuoted_eq, List.append_assoc]
  rfl

end Neutral

/-- A text with a filling for the first placeholder that stands outside of quoted names. -/
def fill (filling text : String) : String :=
  String.ofList (fillMark filling.toList false text.toList)

/-- Behind neutral text, the placeholder is what is filled. -/
theorem fill_between {left : String} (first : Neutral left.toList) (filling right : String) :
    fill filling (left ++ "?" ++ right) = left ++ filling ++ right := by
  have written : (left ++ "?" ++ right).toList = left.toList ++ '?' :: right.toList := by
    simp [String.toList_append]
  rw [fill, written, first.fillMark_between, ← String.toList_append, ← String.toList_append,
    String.ofList_toList]

/-! ### Fragments -/

namespace Fragment

/-- The words of a fragment are neutral. -/
inductive Plain : Fragment → Prop where
  | nil : Plain []
  | word {text : String} {rest : Fragment} (neutral : Neutral text.toList) (later : Plain rest) :
      Plain (.word text :: rest)
  | name (name : String) {rest : Fragment} (later : Plain rest) : Plain (.identifier name :: rest)
  | slot (value : Value) {rest : Fragment} (later : Plain rest) : Plain (.slot value :: rest)

namespace Plain

theorem append {left right : Fragment} (first : Plain left) (second : Plain right) :
    Plain (left ++ right) := by
  induction first with
  | nil => exact second
  | word neutral _ ih => exact .word neutral ih
  | name name _ ih => exact .name name ih
  | slot value _ ih => exact .slot value ih

theorem join {separator : String} {fragments : List Fragment} (between : Neutral separator.toList)
    (plain : ∀ fragment ∈ fragments, Plain fragment) : Plain (Fragment.join separator fragments) := by
  induction fragments with
  | nil => exact .nil
  | cons fragment rest ih =>
    have first := plain fragment List.mem_cons_self
    have later := ih fun other inside => plain other (List.mem_cons_of_mem _ inside)
    cases rest with
    | nil => simpa [Fragment.join] using first
    | cons second rest => exact first.append (.word between later)

/-- **The placeholders of a plain fragment are its slots.** -/
theorem openMarks_text {fragment : Fragment} (plain : Plain fragment) :
    openMarks false fragment.text.toList = fragment.params.length ∧
      endsQuoted false fragment.text.toList = false := by
  induction plain with
  | nil => exact ⟨rfl, rfl⟩
  | @word text rest neutral _ ih =>
    rw [text_cons, String.toList_append, openMarks_append, endsQuoted_append]
    rw [Piece.text, neutral.openMarks_eq, neutral.endsQuoted_eq, Nat.zero_add]
    exact ih
  | @name name rest _ ih =>
    have neutral := Neutral.quote name
    rw [text_cons, String.toList_append, openMarks_append, endsQuoted_append]
    rw [Piece.text, neutral.openMarks_eq, neutral.endsQuoted_eq, Nat.zero_add]
    exact ih
  | @slot value rest _ ih =>
    have marked : openMarks false "?".toList = 1 ∧ endsQuoted false "?".toList = false := by decide
    rw [text_cons, String.toList_append, openMarks_append, endsQuoted_append]
    rw [Piece.text, marked.1, marked.2, ih.1]
    exact ⟨Nat.add_comm _ _, ih.2⟩

/-- A plain fragment without slots is neutral. -/
theorem neutral {fragment : Fragment} (plain : Plain fragment) (unbound : fragment.params = []) :
    Neutral fragment.text.toList := by
  obtain ⟨marks, closed⟩ := plain.openMarks_text
  rw [unbound] at marks
  exact ⟨marks, closed⟩

end Plain

end Fragment

end SqlCraft.Sql
