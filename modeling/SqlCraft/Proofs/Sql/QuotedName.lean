/-
**Reading quoted names.**

A quoted name ends at the first backtick that does not stand for a backtick of the name. Reading is
the inverse of quoting, whatever characters the name has, as long as the text behind it does not go
on with a backtick:

* `readName?_quote` — the name comes back, and what stands behind it is left;
* `quote_append_inj`, `quoteList_append_inj` — so texts that start with a name, or with a list of names,
  agree only if the names do.
-/

import SqlCraft.Sql.Identifier

namespace SqlCraft.Sql

/-- Reads a name up to its closing backtick; the name and what stands behind it. -/
def readClosing? : List Char → Option (List Char × List Char)
  | [] => none
  | '\x60' :: '\x60' :: rest =>
    (readClosing? rest).map fun (name, behind) => ('\x60' :: name, behind)
  | '\x60' :: rest => some ([], rest)
  | c :: rest => (readClosing? rest).map fun (name, behind) => (c :: name, behind)

/-- Reads a quoted name; the name and what stands behind it. -/
def readName? : List Char → Option (String × List Char)
  | '\x60' :: rest => (readClosing? rest).map fun (name, behind) => (String.ofList name, behind)
  | _ => none

/-- What stands behind a name is shorter than what was read. -/
theorem readClosing?_length {text name behind : List Char}
    (read : readClosing? text = some (name, behind)) : behind.length < text.length := by
  fun_induction readClosing? text generalizing name with
  | case1 => cases read
  | case2 rest ih =>
    obtain ⟨⟨shorter, left⟩, found, same⟩ := Option.map_eq_some_iff.1 read
    cases same
    have := ih found
    simp only [List.length_cons]
    omega
  | case3 rest _ =>
    cases read
    simp
  | case4 c rest _ _ ih =>
    obtain ⟨⟨shorter, left⟩, found, same⟩ := Option.map_eq_some_iff.1 read
    cases same
    have := ih found
    simp only [List.length_cons]
    omega

/-- What closes a name, and what stands behind it, is the end of what was read. -/
theorem readClosing?_suffix {text name behind : List Char}
    (read : readClosing? text = some (name, behind)) : '\x60' :: behind <:+ text := by
  fun_induction readClosing? text generalizing name with
  | case1 => cases read
  | case2 text ih =>
    obtain ⟨⟨shorter, left⟩, found, same⟩ := Option.map_eq_some_iff.1 read
    cases same
    exact (ih found).trans ((List.suffix_cons _ _).trans (List.suffix_cons _ _))
  | case3 =>
    cases read
    exact List.suffix_rfl
  | case4 c text _ _ ih =>
    obtain ⟨⟨shorter, left⟩, found, same⟩ := Option.map_eq_some_iff.1 read
    cases same
    exact (ih found).trans (List.suffix_cons _ _)

/-- Further text is left behind a name, unless it goes on with the backtick that closes it. -/
theorem readClosing?_append {text name behind : List Char}
    (read : readClosing? text = some (name, behind)) {rest : List Char}
    (apart : behind = [] → rest.head? ≠ some '\x60') :
    readClosing? (text ++ rest) = some (name, behind ++ rest) := by
  fun_induction readClosing? text generalizing name with
  | case1 => cases read
  | case2 text ih =>
    obtain ⟨⟨shorter, left⟩, found, same⟩ := Option.map_eq_some_iff.1 read
    cases same
    rw [List.cons_append, List.cons_append, readClosing?, ih found]
    rfl
  | case3 text other =>
    cases read
    have apartToo : (behind ++ rest).head? ≠ some '\x60' := by
      cases behind with
      | nil => exact apart rfl
      | cons c behind => exact fun same => other behind (by rw [Option.some.inj same])
    rw [List.cons_append]
    generalize behind ++ rest = text at apartToo
    cases text with
    | nil => rfl
    | cons c text =>
      have differs : c ≠ '\x60' := fun same => apartToo (congrArg some same)
      simp [readClosing?, differs]
  | case4 c text _ notTick ih =>
    obtain ⟨⟨shorter, left⟩, found, same⟩ := Option.map_eq_some_iff.1 read
    cases same
    have differs : c ≠ '\x60' := notTick
    rw [List.cons_append, readClosing?, ih found]
    · rfl
    · exact fun _ same => absurd same differs
    · exact differs

theorem toList_quote_append (name : String) (rest : List Char) :
    (quote name).toList ++ rest = '\x60' :: (doubleBackticks name.toList ++ '\x60' :: rest) := by
  rw [quote, String.toList_ofList, List.cons_append, List.cons_append, List.append_assoc]
  rfl

theorem doubleBackticks_backtick (name : List Char) :
    doubleBackticks ('\x60' :: name) = '\x60' :: '\x60' :: doubleBackticks name := rfl

theorem doubleBackticks_cons_of_ne {c : Char} (other : c ≠ '\x60') (name : List Char) :
    doubleBackticks (c :: name) = c :: doubleBackticks name := by
  simp [doubleBackticks, other]

/-- A doubled name is read back up to the backtick that closes it. -/
theorem readClosing?_doubleBackticks (name : List Char) {rest : List Char}
    (apart : rest.head? ≠ some '\x60') :
    readClosing? (doubleBackticks name ++ '\x60' :: rest) = some (name, rest) := by
  induction name with
  | nil =>
    cases rest with
    | nil => rfl
    | cons c rest =>
      have other : c ≠ '\x60' := fun same => apart (congrArg some same)
      simp [doubleBackticks, readClosing?, other]
  | cons c name ih =>
    by_cases tick : c = '\x60'
    · rw [tick, doubleBackticks_backtick, List.cons_append, List.cons_append, readClosing?, ih]
      rfl
    · rw [doubleBackticks_cons_of_ne tick, List.cons_append, readClosing?, ih]
      · rfl
      · exact fun _ same => absurd same tick
      · exact tick

/-- **Reading is the inverse of quoting.** -/
theorem readName?_quote (name : String) {rest : List Char} (apart : rest.head? ≠ some '\x60') :
    readName? ((quote name).toList ++ rest) = some (name, rest) := by
  rw [toList_quote_append, readName?, readClosing?_doubleBackticks name.toList apart]
  simp

/-! ### What names determine -/

theorem quote_append_inj {first second : String} {rest others : List Char}
    (apart : rest.head? ≠ some '\x60') (apartToo : others.head? ≠ some '\x60')
    (same : (quote first).toList ++ rest = (quote second).toList ++ others) :
    first = second ∧ rest = others := by
  have read := readName?_quote first apart
  rw [same, readName?_quote second apartToo] at read
  injection read with both
  injection both with names behind
  exact ⟨names.symm, behind.symm⟩

/-- The names of a list behind its first. -/
def furtherNames (names : List String) : List Char :=
  names.flatMap fun name => ',' :: ' ' :: (quote name).toList

theorem toList_quoteList_cons (name : String) (names : List String) :
    (quoteList (name :: names)).toList = (quote name).toList ++ furtherNames names := by
  induction names generalizing name with
  | nil => simp [quoteList, furtherNames]
  | cons second names ih =>
    have joined : quoteList (name :: second :: names) =
        quote name ++ ", " ++ quoteList (second :: names) :=
      String.intercalate_cons_of_ne_nil (by simp)
    rw [joined, String.toList_append, String.toList_append, ih, List.append_assoc]
    rfl

theorem head?_quote_append (name : String) (rest : List Char) :
    ((quote name).toList ++ rest).head? = some '\x60' := by
  rw [toList_quote_append]
  rfl

theorem head?_furtherNames_append {names : List String} {rest : List Char}
    (apart : rest.head? ≠ some '\x60') : (furtherNames names ++ rest).head? ≠ some '\x60' := by
  cases names with
  | nil => exact apart
  | cons name names =>
    have comma : (furtherNames (name :: names) ++ rest).head? = some ',' := rfl
    rw [comma]
    decide

theorem furtherNames_append_inj {first second : List String} {rest others : List Char}
    (ends : rest.head? ≠ some '\x60' ∧ rest.head? ≠ some ',')
    (endsToo : others.head? ≠ some '\x60' ∧ others.head? ≠ some ',')
    (same : furtherNames first ++ rest = furtherNames second ++ others) :
    first = second ∧ rest = others := by
  induction first generalizing second with
  | nil =>
    cases second with
    | nil => exact ⟨rfl, same⟩
    | cons other others =>
      rw [show rest = _ from same] at ends
      exact absurd rfl ends.2
  | cons name names ih =>
    cases second with
    | nil =>
      rw [show others = _ from same.symm] at endsToo
      exact absurd rfl endsToo.2
    | cons other more =>
      have behind : (quote name).toList ++ (furtherNames names ++ rest) =
          (quote other).toList ++ (furtherNames more ++ others) := by
        simpa [furtherNames] using same
      obtain ⟨rfl, later⟩ := quote_append_inj (head?_furtherNames_append ends.1)
        (head?_furtherNames_append endsToo.1) behind
      obtain ⟨rfl, left⟩ := ih later
      exact ⟨rfl, left⟩

/-- **A list of names determines the names**, if neither a backtick nor a comma stands behind it. -/
theorem quoteList_append_inj {first second : List String} {rest others : List Char}
    (ends : rest.head? ≠ some '\x60' ∧ rest.head? ≠ some ',')
    (endsToo : others.head? ≠ some '\x60' ∧ others.head? ≠ some ',')
    (same : (quoteList first).toList ++ rest = (quoteList second).toList ++ others) :
    first = second ∧ rest = others := by
  have empty (text : List Char) : (quoteList []).toList ++ text = text := rfl
  cases first with
  | nil =>
    cases second with
    | nil => exact ⟨rfl, same⟩
    | cons name names =>
      rw [empty, toList_quoteList_cons, List.append_assoc] at same
      exact absurd (same ▸ head?_quote_append name _) ends.1
  | cons name names =>
    cases second with
    | nil =>
      rw [empty, toList_quoteList_cons, List.append_assoc] at same
      exact absurd (same ▸ head?_quote_append name _) endsToo.1
    | cons other more =>
      rw [toList_quoteList_cons, toList_quoteList_cons, List.append_assoc, List.append_assoc] at same
      obtain ⟨rfl, later⟩ := quote_append_inj (head?_furtherNames_append ends.1)
        (head?_furtherNames_append endsToo.1) same
      obtain ⟨rfl, left⟩ := furtherNames_append_inj ends endsToo later
      exact ⟨rfl, left⟩

end SqlCraft.Sql
