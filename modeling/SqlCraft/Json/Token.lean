/-
**Tokens of JSON text.**

`Token.scan` splits a text into tokens, dropping blanks, tabs and line ends between them. Where the
text is no JSON token the list ends with `Token.unreadable`, and the rest is not looked at.

A string may be sound as text and still denote nothing, when one of its `\u` escapes is half of a
surrogate pair; its token then has no content.

* `Token.next_length` — a token takes at least one character, so scanning ends.
-/

import SqlCraft.Numeric.Digit
import SqlCraft.Numeric.Numeral

namespace SqlCraft.Json

open Numeric (Numeral hexDigit?)

/-- A token of JSON text. -/
inductive Token where
  | leftBracket
  | rightBracket
  | leftBrace
  | rightBrace
  | comma
  | colon
  | null
  | bool (value : Bool)
  | number (value : Numeral)
  | string (content : Option String)
  | unreadable
deriving DecidableEq, Repr

namespace Token

/-! ### Strings -/

/-- The value of four hexadecimal digits. -/
def hexUnit? (a b c d : Char) : Option Nat := do
  return (((← hexDigit? a) * 16 + (← hexDigit? b)) * 16 + (← hexDigit? c)) * 16 + (← hexDigit? d)

/-- The character after a backslash, for the short escapes. -/
def shortEscape? (c : Char) : Option Char :=
  match c with
  | '"' => some '"'
  | '\\' => some '\\'
  | '/' => some '/'
  | 'b' => some '\x08'
  | 'f' => some '\x0c'
  | 'n' => some '\n'
  | 'r' => some '\r'
  | 't' => some '\t'
  | _ => none

/-- The code units of a string literal after its opening quote, and the text behind its closing
quote. There are none if the literal is malformed or never closed. -/
def scanString? : List Char → Option (List Nat × List Char)
  | '"' :: rest => some ([], rest)
  | '\\' :: 'u' :: a :: b :: c :: d :: rest => do
    let unit ← hexUnit? a b c d
    let (units, rest) ← scanString? rest
    return (unit :: units, rest)
  | '\\' :: c :: rest => do
    let escaped ← shortEscape? c
    let (units, rest) ← scanString? rest
    return (escaped.toNat :: units, rest)
  | c :: rest =>
    if c.toNat < 0x20 then none
    else do
      let (units, rest) ← scanString? rest
      return (c.toNat :: units, rest)
  | [] => none

/-- The characters of code units: a leading surrogate joins with the trailing one behind it, and a
surrogate that stands alone denotes nothing. -/
def joinSurrogates? : List Nat → Option (List Char)
  | [] => some []
  | [unit] => if 0xD800 ≤ unit ∧ unit < 0xE000 then none else some [Char.ofNat unit]
  | unit :: next :: rest =>
    if 0xD800 ≤ unit ∧ unit < 0xDC00 then
      if 0xDC00 ≤ next ∧ next < 0xE000 then do
        let joined := Char.ofNat (0x10000 + (unit - 0xD800) * 0x400 + (next - 0xDC00))
        return joined :: (← joinSurrogates? rest)
      else none
    else if 0xDC00 ≤ unit ∧ unit < 0xE000 then none
    else do return Char.ofNat unit :: (← joinSurrogates? (next :: rest))

/-! ### Numbers -/

/-- The value of a decimal digit. -/
def digitValue (c : Char) : Nat := c.toNat - '0'.toNat

/-- The leading decimal digits of a text. -/
def leadingDigits (text : List Char) : List Nat := (text.takeWhile Char.isDigit).map digitValue

/-- The text behind its leading decimal digits. -/
def afterDigits (text : List Char) : List Char := text.dropWhile Char.isDigit

/-- The digits before the point: a zero alone, or digits that do not start with one. -/
def scanWhole? (text : List Char) : Option (List Nat × List Char) :=
  match leadingDigits text with
  | [] => none
  | 0 :: _ :: _ => none
  | digits => some (digits, afterDigits text)

/-- A point and the digits behind it, of which there must be one. -/
def scanFraction? (text : List Char) : Option (List Nat × List Char) :=
  match text with
  | '.' :: rest =>
    match leadingDigits rest with
    | [] => none
    | digits => some (digits, afterDigits rest)
  | rest => some ([], rest)

/-- The sign of an exponent; a plus may be left out. -/
def scanSign (text : List Char) : Bool × List Char :=
  match text with
  | '-' :: rest => (true, rest)
  | '+' :: rest => (false, rest)
  | rest => (false, rest)

/-- The digits of an exponent behind its sign, of which there must be one. -/
def scanExponentDigits? (text : List Char) : Option (Option (Bool × List Nat) × List Char) :=
  let (down, rest) := scanSign text
  match leadingDigits rest with
  | [] => none
  | digits => some (some (down, digits), afterDigits rest)

/-- An exponent, if one follows. -/
def scanExponent? (text : List Char) : Option (Option (Bool × List Nat) × List Char) :=
  match text with
  | 'e' :: rest => scanExponentDigits? rest
  | 'E' :: rest => scanExponentDigits? rest
  | rest => some (none, rest)

/-- A numeral behind its minus sign, if it has one. -/
def scanMagnitude? (negative : Bool) (text : List Char) : Option (Numeral × List Char) := do
  let (whole, rest) ← scanWhole? text
  let (fraction, rest) ← scanFraction? rest
  let (exponent, rest) ← scanExponent? rest
  return (⟨negative, whole, fraction, exponent⟩, rest)

/-- A numeral. -/
def scanNumeral? (text : List Char) : Option (Numeral × List Char) :=
  match text with
  | '-' :: rest => scanMagnitude? true rest
  | rest => scanMagnitude? false rest

/-! ### Tokens -/

/-- The characters that may stand between tokens. -/
def isBlank (c : Char) : Bool := c = ' ' || c = '\n' || c = '\t' || c = '\r'

/-- The token at the start of a text that does not start with a blank, and the text behind it. -/
def readToken? (text : List Char) : Option (Token × List Char) :=
  match text with
  | '[' :: rest => some (leftBracket, rest)
  | ']' :: rest => some (rightBracket, rest)
  | '\x7b' :: rest => some (leftBrace, rest)
  | '\x7d' :: rest => some (rightBrace, rest)
  | ',' :: rest => some (comma, rest)
  | ':' :: rest => some (colon, rest)
  | 'n' :: 'u' :: 'l' :: 'l' :: rest => some (null, rest)
  | 't' :: 'r' :: 'u' :: 'e' :: rest => some (bool true, rest)
  | 'f' :: 'a' :: 'l' :: 's' :: 'e' :: rest => some (bool false, rest)
  | '"' :: rest =>
    (scanString? rest).map fun (units, rest) =>
      (string ((joinSurrogates? units).map String.ofList), rest)
  | rest => (scanNumeral? rest).map fun (numeral, rest) => (number numeral, rest)

/-- The first token of a text and the text behind it; none when only blanks are left. -/
def next (text : List Char) : Option (Token × List Char) :=
  match text.dropWhile isBlank with
  | [] => none
  | rest => some ((readToken? rest).getD (unreadable, []))

/-! ### A token takes at least one character -/

theorem length_dropWhile_le (p : Char → Bool) (text : List Char) :
    (text.dropWhile p).length ≤ text.length := by
  induction text with
  | nil => simp
  | cons c rest ih =>
    rw [List.dropWhile_cons]
    split
    · exact Nat.le_succ_of_le ih
    · exact Nat.le_refl _

theorem scanString?_length {text rest : List Char} {units : List Nat}
    (found : scanString? text = some (units, rest)) : rest.length < text.length := by
  fun_induction scanString? text generalizing units with
  | case1 => simp_all
  | case2 a b c d behind ih =>
    simp only [Option.bind_eq_bind, Option.bind_eq_some_iff] at found
    obtain ⟨_, -, ⟨_, _⟩, inner, same⟩ := found
    simp only [Option.pure_def, Option.some.injEq, Prod.mk.injEq] at same
    obtain ⟨-, rfl⟩ := same
    have := ih inner
    simp only [List.length_cons]
    omega
  | case3 c behind _ ih =>
    simp only [Option.bind_eq_bind, Option.bind_eq_some_iff] at found
    obtain ⟨_, -, ⟨_, _⟩, inner, same⟩ := found
    simp only [Option.pure_def, Option.some.injEq, Prod.mk.injEq] at same
    obtain ⟨-, rfl⟩ := same
    have := ih inner
    simp only [List.length_cons]
    omega
  | case4 => simp at found
  | case5 c behind _ _ _ _ ih =>
    simp only [Option.bind_eq_bind, Option.bind_eq_some_iff] at found
    obtain ⟨⟨_, _⟩, inner, same⟩ := found
    simp only [Option.pure_def, Option.some.injEq, Prod.mk.injEq] at same
    obtain ⟨-, rfl⟩ := same
    have := ih inner
    simp only [List.length_cons]
    omega
  | case6 => simp at found

theorem afterDigits_length_le (text : List Char) : (afterDigits text).length ≤ text.length :=
  length_dropWhile_le _ text

theorem afterDigits_length {text : List Char} (some_digit : leadingDigits text ≠ []) :
    (afterDigits text).length < text.length := by
  cases text with
  | nil => simp [leadingDigits] at some_digit
  | cons c rest =>
    unfold leadingDigits at some_digit
    unfold afterDigits
    rw [List.takeWhile_cons] at some_digit
    rw [List.dropWhile_cons]
    split
    · exact Nat.lt_succ_of_le (length_dropWhile_le _ rest)
    · simp_all

theorem scanWhole?_length {text rest : List Char} {digits : List Nat}
    (found : scanWhole? text = some (digits, rest)) : rest.length < text.length := by
  unfold scanWhole? at found
  split at found
  · simp at found
  · simp at found
  · rename_i none_empty _
    simp only [Option.some.injEq, Prod.mk.injEq] at found
    obtain ⟨-, rfl⟩ := found
    exact afterDigits_length fun empty => none_empty empty

theorem scanFraction?_length {text rest : List Char} {digits : List Nat}
    (found : scanFraction? text = some (digits, rest)) : rest.length ≤ text.length := by
  unfold scanFraction? at found
  split at found
  · split at found
    · simp at found
    · simp only [Option.some.injEq, Prod.mk.injEq] at found
      obtain ⟨-, rfl⟩ := found
      exact Nat.le_succ_of_le (afterDigits_length_le _)
  · simp_all

theorem scanSign_length (text : List Char) : (scanSign text).2.length ≤ text.length := by
  unfold scanSign
  split <;> simp

theorem scanExponentDigits?_length {text rest : List Char} {exponent : Option (Bool × List Nat)}
    (found : scanExponentDigits? text = some (exponent, rest)) : rest.length ≤ text.length := by
  unfold scanExponentDigits? at found
  simp only at found
  split at found
  · simp at found
  · simp only [Option.some.injEq, Prod.mk.injEq] at found
    obtain ⟨-, rfl⟩ := found
    exact Nat.le_trans (afterDigits_length_le _) (scanSign_length text)

theorem scanExponent?_length {text rest : List Char} {exponent : Option (Bool × List Nat)}
    (found : scanExponent? text = some (exponent, rest)) : rest.length ≤ text.length := by
  unfold scanExponent? at found
  split at found
  · exact Nat.le_succ_of_le (scanExponentDigits?_length found)
  · exact Nat.le_succ_of_le (scanExponentDigits?_length found)
  · simp_all

theorem scanMagnitude?_length {text rest : List Char} {negative : Bool} {numeral : Numeral}
    (found : scanMagnitude? negative text = some (numeral, rest)) : rest.length < text.length := by
  simp only [scanMagnitude?, Option.bind_eq_bind, Option.bind_eq_some_iff, Option.pure_def,
    Option.some.injEq, Prod.mk.injEq, Prod.exists] at found
  obtain ⟨_, _, whole, _, _, fraction, _, _, exponent, -, rfl⟩ := found
  have := scanWhole?_length whole
  have := scanFraction?_length fraction
  have := scanExponent?_length exponent
  omega

theorem scanNumeral?_length {text rest : List Char} {numeral : Numeral}
    (found : scanNumeral? text = some (numeral, rest)) : rest.length < text.length := by
  unfold scanNumeral? at found
  split at found
  · exact Nat.lt_succ_of_lt (scanMagnitude?_length found)
  · exact scanMagnitude?_length found

theorem readToken?_length {text rest : List Char} {token : Token}
    (found : readToken? text = some (token, rest)) : rest.length < text.length := by
  unfold readToken? at found
  split at found
  case h_10 =>
    simp only [Option.map_eq_some_iff, Prod.exists, Prod.mk.injEq] at found
    obtain ⟨_, _, inner, -, rfl⟩ := found
    exact Nat.lt_succ_of_lt (scanString?_length inner)
  case h_11 =>
    simp only [Option.map_eq_some_iff, Prod.exists, Prod.mk.injEq] at found
    obtain ⟨_, _, inner, -, rfl⟩ := found
    exact scanNumeral?_length inner
  all_goals
    simp only [Option.some.injEq, Prod.mk.injEq] at found
    obtain ⟨-, rfl⟩ := found
    simp only [List.length_cons]
    omega

/-- **A token takes at least one character.** -/
theorem next_length {text rest : List Char} {token : Token}
    (found : next text = some (token, rest)) : rest.length < text.length := by
  have shorter := length_dropWhile_le isBlank text
  unfold next at found
  split at found
  · simp at found
  · rename_i nonempty
    rw [Option.some.injEq] at found
    cases read : readToken? (text.dropWhile isBlank) with
    | some result =>
      rw [read, Option.getD_some] at found
      have := readToken?_length (read.trans (congrArg some found))
      omega
    | none =>
      rw [read, Option.getD_none, Prod.mk.injEq] at found
      obtain ⟨-, rfl⟩ := found
      have := List.length_pos_iff.2 fun empty => nonempty empty
      simp only [List.length_nil]
      omega

/-- The tokens of a text. -/
def scan (text : List Char) : List Token :=
  match _found : next text with
  | none => []
  | some (token, rest) => token :: scan rest
termination_by text.length
decreasing_by exact next_length _found

end Token

end SqlCraft.Json
