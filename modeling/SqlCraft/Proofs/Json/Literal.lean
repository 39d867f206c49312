/-
**Strings and numbers of JSON text are read as they are written.**

A string is escaped character by character, and each character is read back before the next one. A number
ends where a character follows that no number goes on with, so what follows it does not change how it is
read.

* `Token.scanString?_escaped`, `Token.joinSurrogates?_toNat` — the characters of a string;
* `Token.Ends`, `Token.scanNumeral?_append` — a numeral and what follows it;
* `Token.scanNumeral?_toString`, `Token.number?_ofInt` — an integer;
* `ReadsBack` — a double whose text denotes it. Not every finite one has this, since a numeral is rounded
  once for its digits and once more for its power of ten.
-/

import Mathlib.Data.List.TakeWhile
import SqlCraft.Json.Basic
import SqlCraft.Json.Token

namespace SqlCraft.Json

open Numeric (Numeral Number digitsValue hexDigit?)

namespace Token

/-! ### Strings -/

/-- The four digits of a control character have its value. -/
theorem hexUnit?_control {value : Nat} (control : value < 0x20) :
    hexUnit? '0' '0' (hexDigit (value / 16)) (hexDigit (value % 16)) = some value := by
  revert value
  decide

/-- A short escape is read as the character that it stands for. -/
theorem scanString?_short {c escaped : Char} (short : shortEscape? c = some escaped)
    (behind : List Char) :
    scanString? ('\\' :: c :: behind) =
      (scanString? behind).map fun found => (escaped.toNat :: found.1, found.2) := by
  rw [scanString?, short]
  · cases scanString? behind <;> rfl
  · rintro _ _ _ _ _ rfl
    cases short

/-- A character that needs no escape is read as itself. -/
theorem scanString?_plain {c : Char} (plain : c ≠ '"' ∧ c ≠ '\\') (printed : ¬ c.toNat < 0x20)
    (behind : List Char) :
    scanString? (c :: behind) =
      (scanString? behind).map fun found => (c.toNat :: found.1, found.2) := by
  rw [scanString?, if_neg printed]
  · cases scanString? behind <;> rfl
  · exact plain.1
  · rintro _ _ _ _ _ rfl
    exact absurd rfl plain.2
  · rintro _ _ rfl
    exact absurd rfl plain.2

/-- An escaped character is read as the character. -/
theorem scanString?_escapeChar (c : Char) (behind : List Char) :
    scanString? (escapeChar c ++ behind) =
      (scanString? behind).map fun found => (c.toNat :: found.1, found.2) := by
  unfold escapeChar
  split
  case h_8 quote backslash _ _ _ _ _ =>
    by_cases control : c.toNat < 0x20
    · rw [if_pos control]
      simp only [List.cons_append, List.nil_append, scanString?, hexUnit?_control control]
      cases scanString? behind <;> rfl
    · rw [if_neg control, List.singleton_append]
      exact scanString?_plain ⟨quote, backslash⟩ control behind
  -- The others have an escape of two characters.
  all_goals exact scanString?_short rfl behind

/-- **An escaped text is read as its characters**, up to the closing quote. -/
theorem scanString?_escaped (text behind : List Char) :
    scanString? (text.flatMap escapeChar ++ '"' :: behind) = some (text.map Char.toNat, behind) := by
  induction text with
  | nil => rfl
  | cons c text ih =>
    rw [List.flatMap_cons, List.append_assoc, scanString?_escapeChar, ih, Option.map_some,
      List.map_cons]

/-- No character is half of a surrogate pair. -/
theorem toNat_not_surrogate (c : Char) : c.toNat < 0xD800 ∨ 0xDFFF < c.toNat := by
  rcases c.valid with low | ⟨high, -⟩
  · exact .inl low
  · exact .inr high

/-- A character that is not part of a pair stands for itself. -/
theorem joinSurrogates?_cons {unit : Nat} (single : unit < 0xD800 ∨ 0xDFFF < unit) (rest : List Nat) :
    joinSurrogates? (unit :: rest) = (joinSurrogates? rest).map (Char.ofNat unit :: ·) := by
  cases rest with
  | nil =>
    simp only [joinSurrogates?]
    rw [if_neg (by omega)]
    rfl
  | cons next rest =>
    simp only [joinSurrogates?]
    rw [if_neg (by omega), if_neg (by omega)]
    cases joinSurrogates? (next :: rest) <;> rfl

/-- **Characters are what their code units denote.** -/
theorem joinSurrogates?_toNat (text : List Char) : joinSurrogates? (text.map Char.toNat) = some text := by
  induction text with
  | nil => rfl
  | cons c text ih =>
    rw [List.map_cons, joinSurrogates?_cons (toNat_not_surrogate c), ih, Option.map_some,
      Char.ofNat_toNat]

/-- A string literal is read as its content. -/
theorem readToken?_stringText (text : String) (behind : List Char) :
    readToken? ((stringText text).toList ++ behind) = some (.string (some text), behind) := by
  have written : (stringText text).toList ++ behind =
      '"' :: (text.toList.flatMap escapeChar ++ '"' :: behind) := by
    simp [stringText]
  rw [written, readToken?, scanString?_escaped]
  simp only [Option.map_some, joinSurrogates?_toNat, String.ofList_toList]

/-! ### Numerals and what follows them -/

/-- The text does not start with a character that a numeral goes on with. -/
def Ends (text : List Char) : Prop :=
  ∀ c ∈ text.head?, c.isDigit = false ∧ c ∉ ['.', 'e', 'E', '+', '-']

section

variable {behind : List Char}

theorem leadingDigits_append (ends : Ends behind) (text : List Char) :
    leadingDigits (text ++ behind) = leadingDigits text := by
  unfold leadingDigits
  induction text with
  | nil =>
    cases behind with
    | nil => rfl
    | cons c rest => simp [(ends c rfl).1]
  | cons c text ih =>
    by_cases digit : c.isDigit
    · simpa [List.takeWhile_cons, digit] using ih
    · simp [digit]

theorem afterDigits_append (ends : Ends behind) (text : List Char) :
    afterDigits (text ++ behind) = afterDigits text ++ behind := by
  unfold afterDigits
  induction text with
  | nil =>
    cases behind with
    | nil => rfl
    | cons c rest => simp [(ends c rfl).1]
  | cons c text ih =>
    by_cases digit : c.isDigit
    · simpa [List.dropWhile_cons, digit] using ih
    · simp [digit]

/-- What is found in a text, with more text behind it. -/
def before {α : Type} (behind : List Char) (found : α × List Char) : α × List Char :=
  (found.1, found.2 ++ behind)

theorem scanWhole?_append (ends : Ends behind) (text : List Char) :
    scanWhole? (text ++ behind) = (scanWhole? text).map (before behind) := by
  unfold scanWhole?
  rw [leadingDigits_append ends, afterDigits_append ends]
  split <;> rfl

theorem scanFraction?_of_head (text : List Char) (other : ∀ c ∈ text.head?, c ≠ '.') :
    scanFraction? text = some ([], text) := by
  unfold scanFraction?
  split
  · exact absurd rfl (other _ rfl)
  · rfl

theorem scanFraction?_append (ends : Ends behind) (text : List Char) :
    scanFraction? (text ++ behind) = (scanFraction? text).map (before behind) := by
  cases text with
  | nil =>
    refine scanFraction?_of_head behind fun c first => ?_
    rintro rfl
    exact (ends _ first).2 (by decide)
  | cons c text =>
    by_cases point : c = '.'
    · subst point
      simp only [scanFraction?, List.cons_append, leadingDigits_append ends, afterDigits_append ends]
      split <;> rfl
    · rw [scanFraction?_of_head (c :: text ++ behind) (by simpa using point),
        scanFraction?_of_head (c :: text) (by simpa using point)]
      rfl

theorem scanSign_of_head (text : List Char) (other : ∀ c ∈ text.head?, c ≠ '-' ∧ c ≠ '+') :
    scanSign text = (false, text) := by
  unfold scanSign
  split
  · exact absurd rfl (other _ rfl).1
  · exact absurd rfl (other _ rfl).2
  · rfl

theorem scanSign_append (ends : Ends behind) (text : List Char) :
    scanSign (text ++ behind) = before behind (scanSign text) := by
  cases text with
  | nil =>
    refine scanSign_of_head behind fun c first => ?_
    constructor <;> rintro rfl <;> exact (ends _ first).2 (by decide)
  | cons c text =>
    by_cases minus : c = '-'
    · subst minus
      rfl
    by_cases plus : c = '+'
    · subst plus
      rfl
    rw [scanSign_of_head (c :: text ++ behind) (by simpa using ⟨minus, plus⟩),
      scanSign_of_head (c :: text) (by simpa using ⟨minus, plus⟩)]
    rfl

theorem scanExponentDigits?_append (ends : Ends behind) (text : List Char) :
    scanExponentDigits? (text ++ behind) = (scanExponentDigits? text).map (before behind) := by
  unfold scanExponentDigits?
  rw [scanSign_append ends]
  simp only [before, leadingDigits_append ends, afterDigits_append ends]
  split <;> rfl

theorem scanExponent?_of_head (text : List Char) (other : ∀ c ∈ text.head?, c ≠ 'e' ∧ c ≠ 'E') :
    scanExponent? text = some (none, text) := by
  unfold scanExponent?
  split
  · exact absurd rfl (other _ rfl).1
  · exact absurd rfl (other _ rfl).2
  · rfl

theorem scanExponent?_append (ends : Ends behind) (text : List Char) :
    scanExponent? (text ++ behind) = (scanExponent? text).map (before behind) := by
  cases text with
  | nil =>
    refine scanExponent?_of_head behind fun c first => ?_
    constructor <;> rintro rfl <;> exact (ends _ first).2 (by decide)
  | cons c text =>
    by_cases lower : c = 'e'
    · subst lower
      exact scanExponentDigits?_append ends text
    by_cases upper : c = 'E'
    · subst upper
      exact scanExponentDigits?_append ends text
    rw [scanExponent?_of_head (c :: text ++ behind) (by simpa using ⟨lower, upper⟩),
      scanExponent?_of_head (c :: text) (by simpa using ⟨lower, upper⟩)]
    rfl

theorem scanMagnitude?_append (ends : Ends behind) (negative : Bool) (text : List Char) :
    scanMagnitude? negative (text ++ behind) = (scanMagnitude? negative text).map (before behind) := by
  unfold scanMagnitude?
  rw [scanWhole?_append ends]
  cases scanWhole? text with
  | none => rfl
  | some whole =>
    simp only [Option.map_some, Option.bind_eq_bind, Option.bind_some, before,
      scanFraction?_append ends]
    cases scanFraction? whole.2 with
    | none => rfl
    | some fraction =>
      simp only [Option.map_some, Option.bind_some, before, scanExponent?_append ends]
      cases scanExponent? fraction.2 <;> rfl

theorem scanNumeral?_of_head (text : List Char) (other : ∀ c ∈ text.head?, c ≠ '-') :
    scanNumeral? text = scanMagnitude? false text := by
  unfold scanNumeral?
  split
  · exact absurd rfl (other _ rfl)
  · rfl

/-- **What follows a numeral does not change how it is read**, unless a numeral goes on with it. -/
theorem scanNumeral?_append (ends : Ends behind) (text : List Char) :
    scanNumeral? (text ++ behind) = (scanNumeral? text).map (before behind) := by
  cases text with
  | nil =>
    have other : ∀ c ∈ behind.head?, c ≠ '-' := by
      rintro c first rfl
      exact (ends _ first).2 (by decide)
    rw [List.nil_append, scanNumeral?_of_head behind other]
    exact scanMagnitude?_append ends false []
  | cons c text =>
    by_cases minus : c = '-'
    · subst minus
      exact scanMagnitude?_append ends true text
    · rw [scanNumeral?_of_head (c :: text ++ behind) (by simpa using minus),
        scanNumeral?_of_head (c :: text) (by simpa using minus)]
      exact scanMagnitude?_append ends false (c :: text)

end

/-! ### Integers -/

/-- The values of the digits of a natural number. -/
def naturalDigits (number : Nat) : List Nat := (Nat.toDigits 10 number).map digitValue

/-- The numeral of an integer. -/
def ofInt (value : Int) : Numeral := ⟨value < 0, naturalDigits value.natAbs, [], none⟩

theorem digitsValue_naturalDigits (number : Nat) : digitsValue (naturalDigits number) = number :=
  calc digitsValue (naturalDigits number)
      = Nat.ofDigitChars 10 (Nat.toDigits 10 number) 0 := by
        rw [Nat.ofDigitChars_eq_foldl, digitsValue, naturalDigits, List.foldl_map]
        rfl
    _ = number := Nat.ofDigitChars_ten_toDigits

/-- Only zero starts with the digit zero. -/
theorem toDigits_head (number : Nat) {c : Char} {rest : List Char}
    (digits : Nat.toDigits 10 number = c :: rest) (zero : digitValue c = 0) : rest = [] := by
  induction number using Nat.strongRecOn generalizing rest with
  | ind number ih =>
    by_cases small : number < 10
    · rw [Nat.toDigits_of_lt_base small] at digits
      cases digits
      rfl
    · rw [Nat.toDigits_of_base_le (by decide) (by omega)] at digits
      obtain ⟨first, others, parts⟩ := List.exists_cons_of_ne_nil (@Nat.toDigits_ne_nil (number / 10) 10)
      rw [parts, List.cons_append] at digits
      obtain ⟨rfl, -⟩ := List.cons.inj digits
      obtain rfl := ih (number / 10) (by omega) parts
      have value := digitsValue_naturalDigits (number / 10)
      rw [naturalDigits, parts, List.map_singleton, zero] at value
      have none : 0 = number / 10 := value
      omega

theorem scanMagnitude?_toDigits (negative : Bool) (number : Nat) :
    scanMagnitude? negative (Nat.toDigits 10 number) =
      some (⟨negative, naturalDigits number, [], none⟩, []) := by
  have digits : ∀ c ∈ Nat.toDigits 10 number, c.isDigit := fun c inside =>
    Nat.isDigit_of_mem_toDigits (by decide) (by decide) inside
  have leading : leadingDigits (Nat.toDigits 10 number) = naturalDigits number := by
    rw [leadingDigits, List.takeWhile_eq_self_iff.2 digits, naturalDigits]
  have after : afterDigits (Nat.toDigits 10 number) = [] := List.dropWhile_eq_nil_iff.2 digits
  have whole : scanWhole? (Nat.toDigits 10 number) = some (naturalDigits number, []) := by
    unfold scanWhole?
    rw [leading, after]
    split
    · rename_i none
      exact absurd (List.map_eq_nil_iff.1 none) Nat.toDigits_ne_nil
    · rename_i second rest zeros
      obtain ⟨first, others, parts⟩ := List.exists_cons_of_ne_nil (@Nat.toDigits_ne_nil number 10)
      rw [naturalDigits, parts, List.map_cons] at zeros
      obtain ⟨zero, more⟩ := List.cons.inj zeros
      rw [toDigits_head number parts zero] at more
      cases more
    · rfl
  rw [scanMagnitude?, whole]
  rfl

/-- **An integer is read as its numeral.** -/
theorem scanNumeral?_toString (value : Int) :
    scanNumeral? (toString value).toList = some (ofInt value, []) := by
  cases value with
  | ofNat number =>
    have written : (toString (Int.ofNat number)).toList = Nat.toDigits 10 number := by
      show (toString number).toList = _
      rw [Nat.toString_eq_ofList_toDigits, String.toList_ofList]
    have unsigned : ∀ c ∈ (Nat.toDigits 10 number).head?, c ≠ '-' := by
      rintro c first rfl
      have digit := Nat.isDigit_of_mem_toDigits (by decide) (by decide) (List.mem_of_mem_head? first)
      exact absurd digit (by decide)
    rw [written, scanNumeral?_of_head _ unsigned]
    exact scanMagnitude?_toDigits false number
  | negSucc number =>
    have written : (toString (Int.negSucc number)).toList = '-' :: Nat.toDigits 10 (number + 1) := by
      show ("-" ++ toString (number + 1)).toList = _
      simp
    have numeral : ofInt (Int.negSucc number) = ⟨true, naturalDigits (number + 1), [], none⟩ := by
      simp [ofInt]
    rw [written, numeral]
    exact scanMagnitude?_toDigits true (number + 1)

/-- **The numeral of an integer of 64 bits denotes it.** -/
theorem number?_ofInt {value : Int} (fits : -0x8000000000000000 ≤ value ∧ value < 0x10000000000000000) :
    (ofInt value).number? = some (.integer value) := by
  have magnitude : digitsValue (ofInt value).whole = value.natAbs := digitsValue_naturalDigits _
  have plain : ¬ ((ofInt value).fraction ≠ [] ∨ (ofInt value).exponent ≠ none) := by simp [ofInt]
  have signed : (ofInt value).negative = true ↔ value < 0 := decide_eq_true_iff
  simp only [Numeral.number?, magnitude, if_neg plain, signed]
  by_cases negative : value < 0
  · have small : value < 0 ∧ value.natAbs ≠ 0 ∧ value.natAbs ≤ 0x8000000000000000 := by omega
    have same : -(value.natAbs : Int) = value := by omega
    rw [if_neg (fun positive => positive.1 negative), if_pos small, same]
  · have small : ¬ value < 0 ∧ value.natAbs < UInt64.size := by
      unfold UInt64.size
      omega
    have same : (value.natAbs : Int) = value := by omega
    rw [if_pos small, same]

end Token

/-! ### Doubles -/

/-- The numeral that the text of a double starts with. -/
def doubleNumeral (value : Float) : Numeral :=
  ((Token.scanNumeral? (doubleText value).toList).map Prod.fst).getD ⟨false, [], [], none⟩

/-- The text of a double is a numeral that denotes it. -/
def ReadsBack (value : Float) : Prop :=
  Token.scanNumeral? (doubleText value).toList = some (doubleNumeral value, []) ∧
    (doubleNumeral value).number? = some (.double value)

instance (value : Float) : Decidable (ReadsBack value) := inferInstanceAs (Decidable (_ ∧ _))

theorem ReadsBack.isFinite {value : Float} (readsBack : ReadsBack value) : value.isFinite := by
  by_contra infinite
  have written : doubleText value = "null" := if_neg infinite
  have read := readsBack.1
  rw [written] at read
  cases read

example : ReadsBack 0.5 ∧ ReadsBack (-1e22) ∧ ¬ ReadsBack 1.5e-300 := by decide +kernel

end SqlCraft.Json
