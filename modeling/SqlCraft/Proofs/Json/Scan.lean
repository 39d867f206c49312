/-
**The text of a JSON value is split into its tokens.**

Compact and indented text have the same tokens, since blanks between tokens are dropped. What a text is
split into does not depend on what follows it, except that a number must not be gone on with.

* `Json.tokens` — the tokens of a value;
* `Marks`, `Spells` — a text is split into tokens whatever follows it, or whatever follows it that no
  number goes on with; rules for putting texts together;
* `Readable` — a value whose numbers read back, and that is not too deep;
* `Readable.spells_compact`, `Readable.spells_prettyAt` — its texts are split into its tokens.
-/

import Mathlib.Data.List.Forall2
import SqlCraft.Proofs.Json.Literal

namespace SqlCraft.Json

open List (Forall₂)

/-! ### Tokens of a value -/

/-- Tokens with commas between them. -/
def commas (parts : List (List Token)) : List Token := [Token.comma].intercalate parts

mutual

/-- The tokens of a value. -/
def tokens : Json → List Token
  | .null => [.null]
  | .bool value => [.bool value]
  | .integer value => [.number (Token.ofInt value)]
  | .double value => [.number (doubleNumeral value)]
  | .string value => [.string (some value)]
  | .array items => .leftBracket :: (commas (itemTokens items) ++ [.rightBracket])
  | .object members => .leftBrace :: (commas (memberTokens members) ++ [.rightBrace])

/-- The tokens of each item of an array. -/
def itemTokens : List Json → List (List Token)
  | [] => []
  | item :: rest => item.tokens :: itemTokens rest

/-- The tokens of each member of an object. -/
def memberTokens : List (String × Json) → List (List Token)
  | [] => []
  | (key, value) :: rest => (.string (some key) :: .colon :: value.tokens) :: memberTokens rest

end

/-- A value that is read back from its text: its numbers are, and arrays and objects inside each other are
no more than there is room for. -/
inductive Readable : Nat → Json → Prop
  | null {room : Nat} : Readable room .null
  | bool {room : Nat} (value : Bool) : Readable room (.bool value)
  | integer {room : Nat} {value : Int} (fits : -0x8000000000000000 ≤ value ∧ value < 0x10000000000000000) :
    Readable room (.integer value)
  | double {room : Nat} {value : Float} (readsBack : ReadsBack value) : Readable room (.double value)
  | string {room : Nat} (value : String) : Readable room (.string value)
  | array {room : Nat} {items : List Json} (each : ∀ item ∈ items, Readable room item) :
    Readable (room + 1) (.array items)
  | object {room : Nat} {members : List (String × Json)}
    (each : ∀ member ∈ members, Readable room member.2) : Readable (room + 1) (.object members)

/-! ### One token -/

namespace Token

theorem scan_eq (text : List Char) :
    scan text = match next text with
      | none => []
      | some (token, rest) => token :: scan rest := by
  rw [scan]
  split <;> simp_all

/-- Blanks in front of a text are dropped. -/
theorem scan_blanks {blanks : List Char} (each : ∀ c ∈ blanks, isBlank c) (behind : List Char) :
    scan (blanks ++ behind) = scan behind := by
  have same : next (blanks ++ behind) = next behind := by
    rw [next, next, List.dropWhile_append, List.dropWhile_eq_nil_iff.2 each]
    rfl
  rw [scan_eq, same, ← scan_eq]

/-- The token that a text starts with is read, and then the text behind it. -/
theorem scan_of_readToken? {c : Char} {text behind : List Char} {token : Token}
    (printed : isBlank c = false) (read : readToken? (c :: text) = some (token, behind)) :
    scan (c :: text) = token :: scan behind := by
  have found : next (c :: text) = some (token, behind) := by
    rw [next, List.dropWhile_cons_of_neg (by simp [printed])]
    show some ((readToken? (c :: text)).getD _) = _
    rw [read, Option.getD_some]
  rw [scan_eq, found]

/-- A text that starts with a numeral has it as its token. -/
theorem readToken?_of_scanNumeral? {text behind : List Char} {numeral : Numeric.Numeral}
    (read : scanNumeral? text = some (numeral, behind)) :
    readToken? text = some (.number numeral, behind) := by
  unfold readToken?
  split
  case h_11 => rw [read, Option.map_some]
  all_goals cases read

end Token

/-! ### Texts of tokens -/

/-- A text is split into tokens, whatever follows it. -/
def Marks (text : String) (tokens : List Token) : Prop :=
  ∀ behind, Token.scan (text.toList ++ behind) = tokens ++ Token.scan behind

/-- A text is split into tokens, whatever follows it that no number goes on with. -/
def Spells (text : String) (tokens : List Token) : Prop :=
  ∀ behind, Token.Ends behind → Token.scan (text.toList ++ behind) = tokens ++ Token.scan behind

/-- No number goes on with the text. -/
def Opens (text : String) : Prop :=
  ∀ behind, Token.Ends behind → Token.Ends (text.toList ++ behind)

theorem Opens.of_head (text : String) (starts : text.toList.head?.any fun c =>
    !c.isDigit && c ∉ ['.', 'e', 'E', '+', '-']) (further : String) : Opens (text ++ further) := by
  intro behind _ c first
  obtain ⟨d, head, other⟩ := (Option.any_eq_true _ _).1 starts
  obtain ⟨rest, same⟩ := List.head?_eq_some_iff.1 head
  rw [String.toList_append, same] at first
  cases first
  simpa using other

/-- No number goes on with blanks. -/
theorem Opens.behind_blanks {blanks text : String} (each : ∀ c ∈ blanks.toList, Token.isBlank c)
    (opens : Opens text) : Opens (blanks ++ text) := by
  intro behind ends c first
  rw [String.toList_append] at first
  generalize blanks.toList = characters at each first
  cases characters with
  | nil => exact opens behind ends c first
  | cons d rest =>
    cases first
    have blank := each c List.mem_cons_self
    simp only [Token.isBlank, Bool.or_eq_true, decide_eq_true_eq] at blank
    rcases blank with ((rfl | rfl) | rfl) | rfl <;> decide

namespace Marks

variable {text more : String} {tokens others : List Token}

theorem spells (marks : Marks text tokens) : Spells text tokens := fun behind _ => marks behind

theorem append (first : Marks text tokens) (second : Marks more others) :
    Marks (text ++ more) (tokens ++ others) := by
  intro behind
  rw [String.toList_append, List.append_assoc, first, second, List.append_assoc]

/-- A text that ends all tokens before what follows. -/
theorem before (first : Marks text tokens) (second : Spells more others) :
    Spells (text ++ more) (tokens ++ others) := by
  intro behind ends
  rw [String.toList_append, List.append_assoc, first, second behind ends, List.append_assoc]

theorem of_readToken? {c : Char} {rest : List Char} {token : Token} (written : text.toList = c :: rest)
    (printed : Token.isBlank c = false)
    (read : ∀ behind, Token.readToken? (c :: rest ++ behind) = some (token, behind)) :
    Marks text [token] := by
  intro behind
  rw [written]
  exact Token.scan_of_readToken? printed (read behind)

theorem null : Marks "null" [.null] := of_readToken? rfl rfl fun _ => rfl

theorem bool (value : Bool) : Marks (Json.bool value).compact [.bool value] := by
  cases value
  · exact of_readToken? rfl rfl fun _ => rfl
  · exact of_readToken? rfl rfl fun _ => rfl

theorem string (value : String) : Marks (stringText value) [.string (some value)] := by
  have written : (stringText value).toList =
      '"' :: (value.toList.flatMap escapeChar ++ ['"']) := by
    simp [stringText]
  refine of_readToken? written rfl fun behind => ?_
  rw [← written]
  exact Token.readToken?_stringText value behind

theorem blanks {text : String} (each : ∀ c ∈ text.toList, Token.isBlank c) : Marks text [] :=
  fun behind => Token.scan_blanks each behind

end Marks

namespace Spells

variable {text more : String} {tokens others : List Token}

/-- A text and another one that no number goes on with. -/
theorem append (first : Spells text tokens) (opens : Opens more) (second : Spells more others) :
    Spells (text ++ more) (tokens ++ others) := by
  intro behind ends
  rw [String.toList_append, List.append_assoc, first _ (opens behind ends), second behind ends,
    List.append_assoc]

/-- A text that is read as a numeral. -/
theorem numeral {text : String} {numeral : Numeric.Numeral}
    (read : Token.scanNumeral? text.toList = some (numeral, [])) : Spells text [.number numeral] := by
  intro behind ends
  have whole := Token.scanNumeral?_append ends text.toList
  rw [read, Option.map_some] at whole
  generalize text.toList = characters at read whole ⊢
  cases characters with
  | nil => cases read
  | cons c rest =>
    have printed : Token.isBlank c = false := by
      by_contra blank
      simp only [Token.isBlank, Bool.not_eq_false, Bool.or_eq_true, decide_eq_true_eq] at blank
      rcases blank with ((rfl | rfl) | rfl) | rfl <;> cases read
    exact Token.scan_of_readToken? printed (Token.readToken?_of_scanNumeral? whole)

/-- Texts with a comma, and perhaps blanks, between neighbours. -/
theorem intercalate {separator : String} (opens : ∀ further, Opens (separator ++ further))
    (marks : Marks separator [.comma]) {texts : List String} {parts : List (List Token)}
    (each : Forall₂ Spells texts parts) : Spells (separator.intercalate texts) (commas parts) := by
  induction each with
  | nil => exact fun behind _ => rfl
  | @cons text part texts parts here later ih =>
    cases later with
    | nil => simpa [commas] using here
    | cons next others =>
      rw [String.intercalate_cons_cons, commas, List.intercalate_cons_cons, String.append_assoc,
        List.append_assoc]
      exact here.append (opens _) (marks.before ih)

section

variable {opening closing : String} {first last : Token} {texts : List String}
  {parts : List (List Token)}

/-- Texts in brackets, with blanks behind each comma and on both sides. -/
theorem enclosed (starts : Marks opening [first]) (ends : Marks closing [last]) (opens : Opens closing)
    {inner outer : String} (blankInner : ∀ c ∈ inner.toList, Token.isBlank c)
    (blankOuter : ∀ c ∈ outer.toList, Token.isBlank c) (each : Forall₂ Spells texts parts) :
    Spells (opening ++ inner ++ String.intercalate ("," ++ inner) texts ++ (outer ++ closing))
      (first :: (commas parts ++ [last])) := by
  have comma : Marks ("," ++ inner) [.comma] :=
    (Marks.of_readToken? rfl rfl fun _ => rfl : Marks "," [.comma]).append (.blanks blankInner)
  have separates : ∀ further, Opens (("," ++ inner) ++ further) := fun further => by
    rw [String.append_assoc]
    exact .of_head "," (by decide) _
  have list := intercalate separates comma each
  exact (((starts.append (.blanks blankInner)).before list).append
    (opens.behind_blanks blankOuter) ((Marks.blanks blankOuter).append ends).spells)

/-- Texts in brackets, without blanks. -/
theorem tight (starts : Marks opening [first]) (ends : Marks closing [last]) (opens : Opens closing)
    (each : Forall₂ Spells texts parts) :
    Spells (opening ++ String.intercalate "," texts ++ closing) (first :: (commas parts ++ [last])) := by
  have spells := @enclosed opening closing first last texts parts starts ends opens "" "" (by simp)
    (by simp) each
  simpa only [String.append_empty, String.empty_append] using spells

theorem isBlank_lineBreak (level : Nat) : ∀ c ∈ (lineBreak level).toList, Token.isBlank c := by
  intro c inside
  simp only [lineBreak, String.toList_append, String.toList_ofList, List.mem_append,
    List.mem_replicate] at inside
  rcases inside with line | ⟨-, rfl⟩
  · rw [List.mem_singleton.1 line]
    rfl
  · rfl

/-- Texts in brackets, each on a line of its own. -/
theorem block (starts : Marks opening [first]) (ends : Marks closing [last]) (opens : Opens closing)
    (level : Nat) (each : Forall₂ Spells texts parts) :
    Spells (Json.block level opening closing texts) (first :: (commas parts ++ [last])) := by
  unfold Json.block
  cases each with
  | nil => exact (starts.append ends).spells
  | cons here later =>
    have spells := enclosed starts ends opens (isBlank_lineBreak (level + 1)) (isBlank_lineBreak level)
      (.cons here later)
    simpa [String.append_assoc] using spells

end

end Spells

/-! ### Compact and indented text -/

theorem marks_colon : Marks ":" [.colon] := .of_readToken? rfl rfl fun _ => rfl

theorem marks_leftBracket : Marks "[" [.leftBracket] := .of_readToken? rfl rfl fun _ => rfl

theorem marks_rightBracket : Marks "]" [.rightBracket] := .of_readToken? rfl rfl fun _ => rfl

theorem marks_leftBrace : Marks "\x7b" [.leftBrace] := .of_readToken? rfl rfl fun _ => rfl

theorem marks_rightBrace : Marks "\x7d" [.rightBrace] := .of_readToken? rfl rfl fun _ => rfl

theorem opens_rightBracket : Opens "]" := .of_head "]" (by decide) ""

theorem opens_rightBrace : Opens "\x7d" := .of_head "\x7d" (by decide) ""

theorem compactItems_forall₂ {items : List Json}
    (each : ∀ item ∈ items, Spells item.compact item.tokens) :
    Forall₂ Spells (compactItems items) (itemTokens items) := by
  induction items with
  | nil => exact .nil
  | cons item rest ih =>
    obtain ⟨first, later⟩ := List.forall_mem_cons.1 each
    exact .cons first (ih later)

theorem compactMembers_forall₂ {members : List (String × Json)}
    (each : ∀ member ∈ members, Spells member.2.compact member.2.tokens) :
    Forall₂ Spells (compactMembers members) (memberTokens members) := by
  induction members with
  | nil => exact .nil
  | cons member rest ih =>
    obtain ⟨first, later⟩ := List.forall_mem_cons.1 each
    exact .cons (((Marks.string member.1).append marks_colon).before first) (ih later)

/-- **The compact text of a value is split into its tokens.** -/
theorem Readable.spells_compact {room : Nat} {json : Json} (readable : Readable room json) :
    Spells json.compact json.tokens := by
  induction readable with
  | null => exact Marks.null.spells
  | bool value => exact (Marks.bool value).spells
  | @integer _ value fits => exact .numeral (Token.scanNumeral?_toString value)
  | double readsBack => exact .numeral readsBack.1
  | string value => exact (Marks.string value).spells
  | array _ ih =>
    rw [compact, tokens]
    exact .tight marks_leftBracket marks_rightBracket opens_rightBracket (compactItems_forall₂ ih)
  | object _ ih =>
    rw [compact, tokens]
    exact .tight marks_leftBrace marks_rightBrace opens_rightBrace (compactMembers_forall₂ ih)

theorem prettyItems_forall₂ {items : List Json} (level : Nat)
    (each : ∀ item ∈ items, ∀ level, Spells (item.prettyAt level) item.tokens) :
    Forall₂ Spells (prettyItems level items) (itemTokens items) := by
  induction items with
  | nil => exact .nil
  | cons item rest ih =>
    obtain ⟨first, later⟩ := List.forall_mem_cons.1 each
    exact .cons (first level) (ih later)

theorem prettyMembers_forall₂ {members : List (String × Json)} (level : Nat)
    (each : ∀ member ∈ members, ∀ level, Spells (member.2.prettyAt level) member.2.tokens) :
    Forall₂ Spells (prettyMembers level members) (memberTokens members) := by
  induction members with
  | nil => exact .nil
  | cons member rest ih =>
    obtain ⟨first, later⟩ := List.forall_mem_cons.1 each
    have blank : Marks " " [] := .blanks fun c inside => List.mem_singleton.1 inside ▸ rfl
    have colon : Marks ": " [.colon] := marks_colon.append blank
    exact .cons (((Marks.string member.1).append colon).before (first level)) (ih later)

/-- **The indented text of a value is split into its tokens.** -/
theorem Readable.spells_prettyAt {room : Nat} {json : Json} (readable : Readable room json) :
    ∀ level, Spells (json.prettyAt level) json.tokens := by
  induction readable with
  | null => exact fun _ => Marks.null.spells
  | bool value =>
    intro level
    cases value
    · exact (Marks.bool false).spells
    · exact (Marks.bool true).spells
  | @integer _ value fits => exact fun _ => .numeral (Token.scanNumeral?_toString value)
  | double readsBack => exact fun _ => .numeral readsBack.1
  | string value => exact fun _ => (Marks.string value).spells
  | array _ ih =>
    intro level
    rw [prettyAt, tokens]
    exact .block marks_leftBracket marks_rightBracket opens_rightBracket level
      (prettyItems_forall₂ (level + 1) ih)
  | object _ ih =>
    intro level
    rw [prettyAt, tokens]
    exact .block marks_leftBrace marks_rightBrace opens_rightBrace level
      (prettyMembers_forall₂ (level + 1) ih)

end SqlCraft.Json
