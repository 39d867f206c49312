/-
**Texts tell the names that they were written from.**

A quoted name ends where its quotes do, so no separator inside of a name is taken for one between
names. Whatever characters the names have, the text of a list can then be split at its separators, and
every part of it be read:

* `lexemes_eq_of_text` — fragments with the same text are read as the same lexemes;
* `parts_of_text` — lists with the same text are read as the same parts;
* `ListsTold` — the lists of columns that statements have, each determined by its text;
* `names_told` — a quoted name is read back from any text that starts with it, and so qualified
  columns and lists of columns determine their names.
-/

import SqlCraft.Proofs.Mutation.Tokens

namespace SqlCraft

open Sql
open Write (assignments keyMatch updateAssignment)

/-! ### Lists of fragments -/

namespace Sql

/-- Lists that are joined by an element that none of their parts has, and none of them empty, are joined
alike only if they are the same. -/
theorem intercalate_inj {α : Type} [BEq α] [LawfulBEq α] {separator : α} {first second : List (List α)}
    (apart : ∀ part ∈ first, part ≠ [] ∧ separator ∉ part)
    (apartToo : ∀ part ∈ second, part ≠ [] ∧ separator ∉ part)
    (same : [separator].intercalate first = [separator].intercalate second) : first = second := by
  have some {part : List α} (rest : List (List α)) (nonempty : part ≠ []) :
      [separator].intercalate (part :: rest) ≠ [] := by
    cases rest with
    | nil => simpa using nonempty
    | cons next rest => simp [List.intercalate_cons_cons]
  cases first with
  | nil =>
    cases second with
    | nil => rfl
    | cons part rest => exact absurd same.symm (some rest (apartToo part List.mem_cons_self).1)
  | cons part rest =>
    cases second with
    | nil => exact absurd same (some rest (apart part List.mem_cons_self).1)
    | cons other more =>
      rw [← List.splitOn_intercalate separator (fun part inside => (apart part inside).2)
          (List.cons_ne_nil _ _), same,
        List.splitOn_intercalate separator (fun part inside => (apartToo part inside).2)
          (List.cons_ne_nil _ _)]

/-- **Fragments with the same text are read as the same lexemes.** -/
theorem lexemes_eq_of_text {first second : Fragment} {tokens others : List Token}
    (tells : first.Tells tokens) (tellsToo : second.Tells others) (same : first.text = second.text) :
    tokens.map Token.lexeme = others.map Token.lexeme := by
  have whole {fragment : Fragment} {read : List Token} (tells : fragment.Tells read) :
      lex fragment.text.toList = some (read.map Token.lexeme) := by
    have spelled := tells.spells [] Boundary.nil
    rwa [List.append_nil, lex_nil, Option.map_some, List.append_nil] at spelled
  have both := whole tells
  rw [same, whole tellsToo] at both
  exact (Option.some.inj both).symm

theorem map_intercalate {α β : Type} (view : α → β) (separator : α) (parts : List (List α)) :
    ([separator].intercalate parts).map view =
      [view separator].intercalate (parts.map (List.map view)) := by
  induction parts with
  | nil => rfl
  | cons part rest ih =>
    cases rest with
    | nil => simp
    | cons next rest => simpa [List.intercalate_cons_cons] using ih

/-- What is determined by the entries of two equal lists is equal as well. -/
theorem map_view_eq {α β γ : Type} {entry : α → β} {view : α → γ}
    (determined : ∀ {left right}, entry left = entry right → view left = view right)
    {first second : List α} (same : first.map entry = second.map entry) :
    first.map view = second.map view := by
  rw [← List.forall₂_eq_eq_eq, List.forall₂_map_left_iff, List.forall₂_map_right_iff] at same ⊢
  exact same.imp fun _ _ => determined

/-- **Lists with the same text are read as the same parts**, if no part has the separator. So they agree
in whatever the lexemes of a part determine. -/
theorem parts_of_text {α β : Type} {separator symbol : String} {write : α → Fragment}
    (read : α → List Token) (view : α → β) (opens : separator.toList.head?.any isApart)
    (word : lex separator.toList = some [.symbol symbol] ∧ separator.toList.getLast?.all isApart)
    (tells : ∀ element, (write element).Tells (read element))
    (apart : ∀ element, read element ≠ [] ∧ .symbol symbol ∉ (read element).map Token.lexeme)
    (determined : ∀ {left right}, (read left).map Token.lexeme = (read right).map Token.lexeme →
      view left = view right)
    {first second : List α} (same : (Fragment.join separator (first.map write)).text =
      (Fragment.join separator (second.map write)).text) : first.map view = second.map view := by
  have joined (list : List α) : Fragment.Tells (Fragment.join separator (list.map write))
      ([Token.symbol symbol].intercalate (list.map read)) := by
    refine .join opens word ?_
    rw [List.forall₂_map_left_iff, List.forall₂_map_right_iff]
    exact List.forall₂_same.2 fun element _ => tells element
  have lexemes := lexemes_eq_of_text (joined first) (joined second) same
  rw [map_intercalate, map_intercalate, List.map_map, List.map_map] at lexemes
  have parted (list : List α) : ∀ part ∈ list.map (List.map Token.lexeme ∘ read),
      part ≠ [] ∧ (Token.symbol symbol).lexeme ∉ part := by
    intro part inside
    obtain ⟨element, -, rfl⟩ := List.mem_map.1 inside
    exact ⟨mt List.map_eq_nil_iff.1 (apart element).1, (apart element).2⟩
  exact map_view_eq determined (intercalate_inj (parted first) (parted second) lexemes)

/-- Lists with commas between their elements. -/
theorem parts_of_commas {α β : Type} {write : α → Fragment} (read : α → List Token) (view : α → β)
    (tells : ∀ element, (write element).Tells (read element))
    (apart : ∀ element, read element ≠ [] ∧ .symbol "," ∉ (read element).map Token.lexeme)
    (determined : ∀ {left right}, (read left).map Token.lexeme = (read right).map Token.lexeme →
      view left = view right)
    {first second : List α} (same : (Fragment.join ", " (first.map write)).text =
      (Fragment.join ", " (second.map write)).text) : first.map view = second.map view :=
  parts_of_text read view (by decide) (by decide +kernel) tells apart determined same

end Sql

/-! ### Columns of statements -/

namespace Write

/-- A column with its value, as the match of a key and the update of a set have it. -/
def equation (entry : ColumnName × Value) : Fragment :=
  entry.1.fragment ++ [.word " = ", .slot entry.2]

/-- The tokens of a column with its value. -/
def equationTokens (entry : ColumnName × Value) : List Token :=
  entry.1.tokens ++ [.symbol "=", .value entry.2]

theorem tells_equation (entry : ColumnName × Value) :
    (equation entry).Tells (equationTokens entry) :=
  .column entry.1 (.word (by decide) _) (.word ["="] (by decide +kernel) (.slot entry.2 .nil))

theorem column_of_equationTokens {left right : ColumnName × Value}
    (same : (equationTokens left).map Token.lexeme = (equationTokens right).map Token.lexeme) :
    left.1 = right.1 := by
  obtain ⟨⟨table, field⟩, value⟩ := left
  obtain ⟨⟨other, column⟩, bound⟩ := right
  simpa [equationTokens, ColumnName.tokens, Token.lexeme] using same

/-- The columns of equations are determined by their text, whichever word stands between them. -/
theorem columns_of_equations {separator symbol : String} (opens : separator.toList.head?.any isApart)
    (word : lex separator.toList = some [.symbol symbol] ∧ separator.toList.getLast?.all isApart)
    (apart : symbol ∉ [".", "="]) {table other : String} {entries others : List (String × Value)}
    (same : (Fragment.join separator (entries.map fun entry => equation (⟨table, entry.1⟩, entry.2))).text =
      (Fragment.join separator (others.map fun entry => equation (⟨other, entry.1⟩, entry.2))).text) :
    (entries.map fun entry => ColumnName.mk table entry.1) =
      others.map fun entry => ColumnName.mk other entry.1 := by
  have owned (table : String) (entries : List (String × Value)) :
      (entries.map fun entry => equation (⟨table, entry.1⟩, entry.2)) =
        (entries.map fun entry => (ColumnName.mk table entry.1, entry.2)).map equation := by
    rw [List.map_map]
    rfl
  rw [owned, owned] at same
  have columns := parts_of_text equationTokens Prod.fst opens word tells_equation (fun entry => ?_)
    column_of_equationTokens same
  · rwa [List.map_map, List.map_map] at columns
  · simp [equationTokens, ColumnName.tokens, Token.lexeme] at apart ⊢
    exact apart

/-- The fields that an update of a row sets are determined by its text. -/
theorem fields_of_assignments {entries others : List (String × Value)}
    (same : (assignments (fun field => [.identifier field]) entries).text =
      (assignments (fun field => [.identifier field]) others).text) :
    entries.map Prod.fst = others.map Prod.fst := by
  refine parts_of_commas (fun entry => [.name entry.1, .symbol "=", .value entry.2]) Prod.fst
    (fun entry => ?_) (fun entry => ?_) (fun {left right} same => ?_) same
  · exact .name entry.1 (.word (by decide) _) (.word ["="] (by decide +kernel) (.slot entry.2 .nil))
  · simp [Token.lexeme]
  · simpa [Token.lexeme] using same

/-- The columns that an upsert assigns are determined by the text of the assignments. -/
theorem columns_of_updates {table other : String} {adds addsToo : Bool} {fields others : List String}
    (same : (Fragment.join ", " (fields.map (updateAssignment table adds))).text =
      (Fragment.join ", " (others.map (updateAssignment other addsToo))).text) :
    fields.map (ColumnName.mk table) = others.map (ColumnName.mk other) := by
  have owned (table : String) (adds : Bool) (fields : List String) :
      fields.map (updateAssignment table adds) =
        (fields.map fun field => (ColumnName.mk table field, adds)).map fun entry =>
          updateAssignment entry.1.table entry.2 entry.1.field := by
    rw [List.map_map]
    rfl
  rw [owned, owned] at same
  have columns := parts_of_commas (fun entry => updateTokens entry.1 entry.2) Prod.fst
    (fun entry => tells_updateAssignment _ _ _) (fun entry => ?_) (fun {left right} same => ?_) same
  · rwa [List.map_map, List.map_map] at columns
  · cases entry.2 <;> simp [updateTokens, ColumnName.tokens, Token.lexeme, incoming]
  · obtain ⟨⟨table, field⟩, adds⟩ := left
    obtain ⟨⟨other, column⟩, addsToo⟩ := right
    simp only [updateTokens, ColumnName.tokens, List.cons_append, List.map_cons, Token.lexeme,
      List.cons.injEq, Lexeme.name.injEq] at same
    rw [same.1, same.2.2.1]

end Write

/-! ### Columns of queries -/

theorem AggregateFunction.name_injective : Function.Injective AggregateFunction.name := by
  intro first second same
  cases first <;> cases second <;> first | rfl | exact absurd same (by decide)

theorem Direction.keyword_injective : Function.Injective Direction.keyword := by
  intro first second same
  cases first <;> cases second <;> first | rfl | exact absurd same (by decide)

theorem Sql.ColumnName.eq_of_lexemes {left right : ColumnName}
    (same : left.tokens.map Token.lexeme = right.tokens.map Token.lexeme) : left = right := by
  obtain ⟨table, field⟩ := left
  obtain ⟨other, column⟩ := right
  simpa [ColumnName.tokens, Token.lexeme] using same

theorem Projection.eq_of_lexemes {left right : Projection}
    (same : left.tokens.map Token.lexeme = right.tokens.map Token.lexeme) : left = right := by
  cases left with
  | column name =>
    cases right with
    | column other => exact congrArg Projection.column (ColumnName.eq_of_lexemes same)
    | aggregate => cases (List.cons.inj same).1
  | aggregate function operand label =>
    cases right with
    | column => cases (List.cons.inj same).1
    | aggregate other operandToo title =>
      simp only [tokens, List.cons_append, List.nil_append, List.map_cons, List.cons.injEq,
        Token.lexeme, Lexeme.symbol.injEq, true_and] at same
      obtain ⟨functions, operands⟩ := same
      cases AggregateFunction.name_injective functions
      cases operand with
      | none =>
        cases operandToo with
        | none => simpa [Token.lexeme] using operands
        | some name => cases (List.cons.inj operands).1
      | some name =>
        cases operandToo with
        | none => cases (List.cons.inj operands).1
        | some column =>
          obtain ⟨table, field⟩ := name
          obtain ⟨owner, column⟩ := column
          simpa [ColumnName.tokens, Token.lexeme, and_assoc] using operands

theorem SortKey.eq_of_lexemes {left right : SortKey}
    (same : left.tokens.map Token.lexeme = right.tokens.map Token.lexeme) : left = right := by
  obtain ⟨⟨table, field⟩, direction⟩ := left
  obtain ⟨⟨other, column⟩, directionToo⟩ := right
  simp only [tokens, ColumnName.tokens, List.cons_append, List.nil_append, List.map_cons,
    List.cons.injEq, Token.lexeme, Lexeme.name.injEq, Lexeme.symbol.injEq, true_and, List.map_nil,
    and_true] at same
  obtain ⟨rfl, rfl, keywords⟩ := same
  rw [Direction.keyword_injective keywords]

/-- What a select shows is determined by its text. -/
theorem Select.shown_injective : Function.Injective fun projections : List Projection =>
    (Fragment.join ", " (projections.map Projection.fragment)).text := by
  intro first second same
  have shown := parts_of_commas Projection.tokens id Projection.tells (fun projection => ?_)
    Projection.eq_of_lexemes same
  · rwa [List.map_id, List.map_id] at shown
  · cases projection with
    | column name => simp [Projection.tokens, ColumnName.tokens, Token.lexeme]
    | aggregate function operand label =>
      have word : function.name ≠ "," := by cases function <;> decide
      cases operand <;> simp [Projection.tokens, ColumnName.tokens, Token.lexeme, word.symm]

/-- What a select is sorted by is determined by its text. -/
theorem Select.sorted_injective : Function.Injective fun keys : List SortKey =>
    (Fragment.join ", " (keys.map SortKey.fragment)).text := by
  intro first second same
  have sorted := parts_of_commas SortKey.tokens id SortKey.tells (fun key => ?_)
    SortKey.eq_of_lexemes same
  · rwa [List.map_id, List.map_id] at sorted
  · have word : key.direction.keyword ≠ "," := by cases key.direction <;> decide
    simp [SortKey.tokens, ColumnName.tokens, Token.lexeme, word.symm]

/-! ### What texts tell -/

/-- A table with a field is determined by the text of the column. -/
theorem Sql.qualified_inj {table field other column : String}
    (same : qualified table field = qualified other column) : table = other ∧ field = column := by
  have texts := congrArg String.toList same
  have text (table field : String) : (qualified table field).toList =
      (quote table).toList ++ (".".toList ++ ((quote field).toList ++ [])) := by
    simp only [qualified, String.toList_append, List.append_assoc, List.append_nil]
  rw [text, text] at texts
  obtain ⟨rfl, behind⟩ := quote_append_inj (by simp) (by simp) texts
  obtain ⟨rfl, -⟩ := quote_append_inj (by simp) (by simp) (List.append_cancel_left behind)
  exact ⟨rfl, rfl⟩

theorem Sql.quoteList_injective : Function.Injective quoteList := by
  intro first second same
  have texts : (quoteList first).toList ++ [] = (quoteList second).toList ++ [] := by rw [same]
  exact (quoteList_append_inj (by simp) (by simp) texts).1

/-- Lists of columns, as statements have them: each is determined by its text. -/
structure ListsTold : Prop where
  /-- Columns that rows are inserted into. -/
  inserted : Function.Injective fun columns => (Fragment.names columns).text
  /-- Columns that the update of a row sets. -/
  set (entries others : List (String × Value)) :
    (assignments (fun field => [.identifier field]) entries).text =
        (assignments (fun field => [.identifier field]) others).text →
      entries.map Prod.fst = others.map Prod.fst
  /-- Columns that the update of a set of rows sets, with their table. -/
  setQualified (table other : String) (entries others : List (String × Value)) :
    (assignments (fun field => (ColumnName.mk table field).fragment) entries).text =
        (assignments (fun field => (ColumnName.mk other field).fragment) others).text →
      (entries.map fun entry => ColumnName.mk table entry.1) =
        others.map fun entry => ColumnName.mk other entry.1
  /-- Columns of the key that a row is matched by, with their table. -/
  matched (table other : String) (key others : List (String × Value)) :
    (keyMatch table key).text = (keyMatch other others).text →
      (key.map fun entry => ColumnName.mk table entry.1) =
        others.map fun entry => ColumnName.mk other entry.1
  /-- Columns that an upsert assigns, with their table. -/
  updated (table other : String) (adds addsToo : Bool) (fields others : List String) :
    (Fragment.join ", " (fields.map (updateAssignment table adds))).text =
        (Fragment.join ", " (others.map (updateAssignment other addsToo))).text →
      fields.map (ColumnName.mk table) = others.map (ColumnName.mk other)
  /-- Columns and aggregates that a select shows. -/
  shown : Function.Injective fun projections : List Projection =>
    (Fragment.join ", " (projections.map Projection.fragment)).text
  /-- Columns that a select is sorted by, with their directions. -/
  sorted : Function.Injective fun keys : List SortKey =>
    (Fragment.join ", " (keys.map SortKey.fragment)).text

theorem listsTold : ListsTold where
  inserted first second same := by
    simp only [Fragment.text_names] at same
    exact quoteList_injective same
  set _ _ := Write.fields_of_assignments
  setQualified _ _ _ _ :=
    Write.columns_of_equations (by decide) (by decide +kernel : lex _ = some [.symbol ","] ∧ _)
      (by decide)
  matched _ _ _ _ :=
    Write.columns_of_equations (by decide) (by decide +kernel : lex _ = some [.symbol "AND"] ∧ _)
      (by decide)
  updated _ _ _ _ _ _ := Write.columns_of_updates
  shown := Select.shown_injective
  sorted := Select.sorted_injective

/-- **Quoted names are read back, and texts determine them.** A name is read back from its quoted form
with whatever stands behind it, as long as that does not go on with a backtick; so different columns of
tables, and different lists of columns, have different texts. -/
theorem names_told :
    (∀ (name : String) (rest : List Char), rest.head? ≠ some '\x60' →
      readName? ((quote name).toList ++ rest) = some (name, rest)) ∧
    (∀ table field other column, qualified table field = qualified other column →
      table = other ∧ field = column) ∧
    Function.Injective quoteList ∧ ListsTold :=
  ⟨fun name _ apart => readName?_quote name apart, fun _ _ _ _ => qualified_inj,
    quoteList_injective, listsTold⟩

/-- A name that ends in what separates names in a list, with a column behind it. -/
theorem names_told_quoted :
    let name := "a\x60.\x60b\x60, \x60"
    let rest := ".\x60c\x60".toList
    rest.head? ≠ some '\x60' ∧ readName? ((quote name).toList ++ rest) = some (name, rest) :=
  ⟨by decide, names_told.1 _ _ (by decide)⟩

end SqlCraft
