/-
**Reading statements that write.**

A statement that writes is read from its tokens: which rows it inserts, which columns it assigns, and
what it asks of the rows that it changes or deletes. Names and values are matched up by position.

* `Written` — what a statement writes;
* `Written.ofTokens?` — the reader;
* `ofTokens?_insert`, `ofTokens?_insertQuery`, `ofTokens?_update`, `ofTokens?_delete` — what each kind
  of statement is read as;
* `Statement.ReadAs` — a statement is read as what it writes, with no placeholder left over.
-/

import SqlCraft.Proofs.Sql.Condition
import SqlCraft.Sql.Statement

namespace SqlCraft.Sql

/-- What a statement writes. -/
inductive Written where
  /-- Columns with their values, and what stands behind these. -/
  | insert (table : String) (entries : List (String × Value)) (further : List Token)
  /-- Columns, and the query whose rows they take. -/
  | insertQuery (table : String) (columns : List String) (query : List Token)
  /-- Columns with their new values, and what is asked of the rows. -/
  | update (table : String) (assignments : List (String × Value)) (condition : Option (List Token))
  /-- What is asked of the rows. -/
  | delete (table : String) (condition : Option (List Token))

/-! ### The reader -/

/-- The parts between commas; no tokens are no parts. -/
def parts (tokens : List Token) : List (List Token) :=
  if tokens = [] then [] else tokens.splitOn (.symbol ",")

/-- The name that a part consists of. -/
def name? : List Token → Option String
  | [.name text] => some text
  | _ => none

/-- The value that a part consists of. -/
def value? : List Token → Option Value
  | [.value value] => some value
  | _ => none

/-- The column of a table that a part sets, with its value; the table may stand in front. -/
def assignment? (table : String) : List Token → Option (String × Value)
  | [.name field, .symbol "=", .value value] => some (field, value)
  | [.name owner, .symbol ".", .name field, .symbol "=", .value value] =>
    if owner = table then some (field, value) else none
  | _ => none

/-- What tokens write. -/
def Written.ofTokens? : List Token → Option Written
  | .symbol "INSERT" :: .symbol "INTO" :: .name table :: .symbol "(" :: rest => do
    let columns ← (parts (before ")" rest)).mapM name?
    match ← behind? ")" rest with
    | .symbol "VALUES" :: .symbol "(" :: rest =>
      let values ← (parts (before ")" rest)).mapM value?
      let further ← behind? ")" rest
      if columns.length = values.length then some (.insert table (columns.zip values) further)
      else none
    | query => some (.insertQuery table columns query)
  | .symbol "UPDATE" :: .name table :: .symbol "SET" :: rest => do
    let assignments ← (parts (before "WHERE" rest)).mapM (assignment? table)
    some (.update table assignments (behind? "WHERE" rest))
  | [.symbol "DELETE", .symbol "FROM", .name table] => some (.delete table none)
  | .symbol "DELETE" :: .symbol "FROM" :: .name table :: .symbol "WHERE" :: condition =>
    some (.delete table (some condition))
  | _ => none

/-! ### Lists -/

/-- Parts that are joined by commas and have none are told apart. -/
theorem parts_commas {list : List (List Token)}
    (apart : ∀ part ∈ list, part ≠ [] ∧ .symbol "," ∉ part) : parts (commas list) = list := by
  cases list with
  | nil => rfl
  | cons part rest =>
    have some : commas (part :: rest) ≠ [] := by
      have first := (apart part List.mem_cons_self).1
      cases rest with
      | nil => simpa [commas] using first
      | cons next rest => simp [commas_cons_cons]
    rw [parts, if_neg some]
    exact List.splitOn_intercalate _ (fun part inside => (apart part inside).2) (List.cons_ne_nil _ _)

theorem mapM_map_eq_some {α β γ : Type} {write : α → β} {read : β → Option γ} {view : α → γ}
    {list : List α} (each : ∀ element ∈ list, read (write element) = some (view element)) :
    (list.map write).mapM read = some (list.map view) := by
  induction list with
  | nil => rfl
  | cons element rest ih =>
    obtain ⟨here, later⟩ := List.forall_mem_cons.1 each
    rw [List.map_cons, List.mapM_cons, here, ih later]
    rfl

/-- What is written with commas between is read part by part. -/
theorem mapM_parts_commas {α β : Type} (write : α → List Token) (read : List Token → Option β)
    (view : α → β) (list : List α)
    (each : ∀ element ∈ list, read (write element) = some (view element))
    (apart : ∀ element ∈ list, write element ≠ [] ∧ .symbol "," ∉ write element) :
    (parts (commas (list.map write))).mapM read = some (list.map view) := by
  rw [parts_commas, mapM_map_eq_some each]
  intro part inside
  obtain ⟨element, within, rfl⟩ := List.mem_map.1 inside
  exact apart element within

/-- A word that no part has, and that is no comma, is not among the tokens. -/
theorem not_mem_commas {α : Type} {word : String} {write : α → List Token} {list : List α}
    (other : word ≠ ",") (absent : ∀ element ∈ list, .symbol word ∉ write element) :
    .symbol word ∉ commas (list.map write) := by
  have each : ∀ token ∈ commas (list.map write), token ≠ .symbol word := by
    refine forall_mem_commas (by simpa using Ne.symm other) fun part inside token within same => ?_
    obtain ⟨element, among, rfl⟩ := List.mem_map.1 inside
    exact absent element among (same ▸ within)
  exact fun inside => each _ inside rfl

/-! ### Names, values and assignments -/

/-- The tokens of names with commas between them. -/
def nameTokens (names : List String) : List Token := commas (names.map fun name => [.name name])

/-- The tokens of values with commas between them. -/
def valueTokens (held : List Value) : List Token := commas (held.map fun value => [.value value])

/-- The tokens of assignments with commas between them. -/
def assignmentTokens (column : String → List Token) (entries : List (String × Value)) : List Token :=
  commas (entries.map fun entry => column entry.1 ++ [.symbol "=", .value entry.2])

theorem read_nameTokens (names : List String) :
    (parts (nameTokens names)).mapM name? = some names := by
  have read := mapM_parts_commas (fun name => [Token.name name]) name? id names
    (fun _ _ => rfl) (by simp)
  rwa [List.map_id] at read

theorem read_valueTokens (held : List Value) :
    (parts (valueTokens held)).mapM value? = some held := by
  have read := mapM_parts_commas (fun value => [Token.value value]) value? id held
    (fun _ _ => rfl) (by simp)
  rwa [List.map_id] at read

theorem not_mem_nameTokens {word : String} (other : word ≠ ",") (names : List String) :
    .symbol word ∉ nameTokens names :=
  not_mem_commas other fun name _ => by simp

theorem not_mem_valueTokens {word : String} (other : word ≠ ",") (held : List Value) :
    .symbol word ∉ valueTokens held :=
  not_mem_commas other fun value _ => by simp

/-- How a column can stand in an assignment: alone, or behind its table. -/
def Assignable (table : String) (column : String → List Token) : Prop :=
  (column = fun field => [.name field]) ∨
    column = fun field => [.name table, .symbol ".", .name field]

theorem read_assignmentTokens {table : String} {column : String → List Token}
    (assignable : Assignable table column) (entries : List (String × Value)) :
    (parts (assignmentTokens column entries)).mapM (assignment? table) = some entries := by
  have read := mapM_parts_commas
    (fun entry : String × Value => column entry.1 ++ [Token.symbol "=", .value entry.2])
    (assignment? table) id entries ?_ ?_
  · rwa [List.map_id] at read
  all_goals rcases assignable with rfl | rfl
  · exact fun _ _ => rfl
  · exact fun _ _ => if_pos rfl
  · simp
  · simp

theorem not_mem_assignmentTokens {table word : String} {column : String → List Token}
    (assignable : Assignable table column) (other : word ∉ [",", ".", "="])
    (entries : List (String × Value)) : .symbol word ∉ assignmentTokens column entries := by
  refine not_mem_commas (fun same => other (by simp [same])) fun entry _ inside => ?_
  rcases assignable with rfl | rfl <;> simp_all

/-! ### Statements -/

namespace Written

theorem ofTokens?_insert (table : String) (entries : List (String × Value)) (further : List Token) :
    ofTokens? ([.symbol "INSERT", .symbol "INTO", .name table, .symbol "("] ++
        (nameTokens (entries.map Prod.fst) ++ ([.symbol ")", .symbol "VALUES", .symbol "("] ++
          (valueTokens (entries.map Prod.snd) ++ .symbol ")" :: further)))) =
      some (.insert table entries further) := by
  have names : .symbol ")" ∉ nameTokens (entries.map Prod.fst) := not_mem_nameTokens (by decide) _
  have held : .symbol ")" ∉ valueTokens (entries.map Prod.snd) := not_mem_valueTokens (by decide) _
  simp only [List.cons_append, List.nil_append, ofTokens?]
  rw [before_append names, behind?_append names, read_nameTokens]
  simp only [Option.bind_eq_bind, Option.bind_some]
  rw [before_append held, behind?_append held, read_valueTokens]
  have zipped : (entries.map Prod.fst).zip (entries.map Prod.snd) = entries := by
    rw [← List.unzip_fst, ← List.unzip_snd, List.zip_unzip]
  simp [zipped]

theorem ofTokens?_insertQuery (table : String) (columns : List String) {query : List Token}
    (other : ∀ rest, query ≠ .symbol "VALUES" :: rest) :
    ofTokens? ([.symbol "INSERT", .symbol "INTO", .name table, .symbol "("] ++
        (nameTokens columns ++ .symbol ")" :: query)) =
      some (.insertQuery table columns query) := by
  have names : .symbol ")" ∉ nameTokens columns := not_mem_nameTokens (by decide) _
  simp only [List.cons_append, List.nil_append, ofTokens?]
  rw [before_append names, behind?_append names, read_nameTokens]
  simp only [Option.bind_eq_bind, Option.bind_some]
  split
  · exact absurd rfl (other _)
  · rfl

theorem ofTokens?_update {table : String} {column : String → List Token}
    (assignable : Assignable table column) (entries : List (String × Value))
    (condition : Option (List Token)) :
    ofTokens? ([.symbol "UPDATE", .name table, .symbol "SET"] ++ (assignmentTokens column entries ++
        (condition.map (.symbol "WHERE" :: ·)).getD [])) =
      some (.update table entries condition) := by
  have absent : .symbol "WHERE" ∉ assignmentTokens column entries :=
    not_mem_assignmentTokens assignable (by decide) entries
  simp only [List.cons_append, List.nil_append, ofTokens?]
  cases condition with
  | none =>
    rw [Option.map_none, Option.getD_none, List.append_nil, before_of_not_mem absent,
      behind?_of_not_mem absent, read_assignmentTokens assignable]
    rfl
  | some condition =>
    rw [Option.map_some, Option.getD_some, before_append absent, behind?_append absent,
      read_assignmentTokens assignable]
    rfl

theorem ofTokens?_delete (table : String) (condition : Option (List Token)) :
    ofTokens? ([.symbol "DELETE", .symbol "FROM", .name table] ++
        (condition.map (.symbol "WHERE" :: ·)).getD []) = some (.delete table condition) := by
  cases condition <;> rfl

end Written

/-- The statement is read as what it writes. Its values take all placeholders that it has outside of
quoted names, from left to right. -/
def Statement.ReadAs (statement : Statement) (written : Written) : Prop :=
  ∃ params tokens, statement.binding = .values params ∧
    openMarks false statement.sql.toList = params.length ∧
    tokens? statement.sql params = some tokens ∧ Written.ofTokens? tokens = some written

/-- A statement is read in one way. -/
theorem Statement.ReadAs.eq {statement : Statement} {written other : Written}
    (read : statement.ReadAs written) (again : statement.ReadAs other) : written = other := by
  obtain ⟨params, tokens, bound, -, told, read⟩ := read
  obtain ⟨_, _, boundToo, -, toldToo, again⟩ := again
  cases bound.symm.trans boundToo
  cases told.symm.trans toldToo
  exact Option.some.inj (read.symm.trans again)

theorem Fragment.Tells.readAs {fragment : Fragment} {tokens : List Token} {written : Written}
    (tells : fragment.Tells tokens) (read : Written.ofTokens? tokens = some written) :
    (Statement.ofFragment fragment).ReadAs written :=
  ⟨fragment.params, tokens, rfl, openMarks_of_tokens? tells.tokens?_eq, tells.tokens?_eq, read⟩

end SqlCraft.Sql
