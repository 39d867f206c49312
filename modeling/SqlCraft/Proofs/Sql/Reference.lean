/-
**The tables and the columns that tokens name.**

A statement introduces a table by a name behind `FROM` or `JOIN`, and refers to a column by two names with
a dot between them. Both are found by going through the tokens once. What is found in parts that stand
one behind the other is found in the whole, since no part starts with a dot.

* `introduced`, `references` — the tables and the columns, in order;
* `Names` — what is found in some tokens, whatever follows; rules for each kind of token, for appending
  and for joining.
-/

import SqlCraft.Proofs.Sql.Token

namespace SqlCraft.Sql

/-- The tables that tokens introduce. -/
def introduced : List Token → List String
  | .symbol word :: .name table :: rest =>
    if word = "FROM" ∨ word = "JOIN" then table :: introduced rest else introduced rest
  | _ :: rest => introduced rest
  | [] => []

/-- The columns that tokens refer to. -/
def references : List Token → List ColumnName
  | .name table :: .symbol "." :: .name field :: rest => ⟨table, field⟩ :: references rest
  | _ :: rest => references rest
  | [] => []

/-- The tokens do not start with a dot. -/
def Undotted (tokens : List Token) : Prop := tokens.head? ≠ some (.symbol ".")

/-- A word that neither introduces a table nor is a dot. -/
def Neither (word : String) : Prop := word ∉ ["FROM", "JOIN", "."]

instance (word : String) : Decidable (Neither word) := inferInstanceAs (Decidable (_ ∉ _))

theorem introduced_symbol {word : String} (neither : Neither word) (rest : List Token) :
    introduced (.symbol word :: rest) = introduced rest := by
  have other : ¬ (word = "FROM" ∨ word = "JOIN") := by
    rintro (rfl | rfl) <;> exact neither (by decide)
  cases rest with
  | nil => rfl
  | cons token rest =>
    cases token with
    | name text => exact if_neg other
    | symbol text | value value => rfl

theorem references_name (text : String) {rest : List Token} (undotted : Undotted rest) :
    references (.name text :: rest) = references rest := by
  rw [references]
  rintro table field behind - rfl
  exact undotted rfl

/-- What is found in tokens, whatever follows. -/
structure Names (tokens : List Token) (tables : List String) (columns : List ColumnName) : Prop where
  undotted : Undotted tokens
  introduced_append : ∀ rest, introduced (tokens ++ rest) = tables ++ introduced rest
  references_append : ∀ rest, Undotted rest →
    references (tokens ++ rest) = columns ++ references rest

namespace Names

variable {tokens left right : List Token} {tables others : List String}
  {columns more : List ColumnName}

theorem nil : Names [] [] [] := ⟨nofun, fun _ => rfl, fun _ _ => rfl⟩

theorem append (first : Names left tables columns) (second : Names right others more) :
    Names (left ++ right) (tables ++ others) (columns ++ more) := by
  have meets : ∀ {head tail : List Token}, Undotted head → Undotted tail →
      Undotted (head ++ tail) := fun {head _} before behind => by
    cases head with
    | nil => exact behind
    | cons token rest => exact before
  refine ⟨meets first.undotted second.undotted, fun rest => ?_, fun rest follows => ?_⟩
  · rw [List.append_assoc, first.introduced_append, second.introduced_append, List.append_assoc]
  · rw [List.append_assoc, first.references_append _ (meets second.undotted follows),
      second.references_append rest follows, List.append_assoc]

theorem symbol {word : String} (neither : Neither word) (later : Names tokens tables columns) :
    Names (.symbol word :: tokens) tables columns := by
  have undotted : Undotted [.symbol word] := by
    rintro ⟨⟩
    exact neither (by decide)
  have alone : Names [.symbol word] [] [] :=
    ⟨undotted, introduced_symbol neither, fun _ _ => rfl⟩
  exact alone.append later

theorem value (value : Value) (later : Names tokens tables columns) :
    Names (.value value :: tokens) tables columns := by
  have alone : Names [.value value] [] [] := ⟨nofun, fun _ => rfl, fun _ _ => rfl⟩
  exact alone.append later

/-- A name on its own. -/
theorem label (text : String) (later : Names tokens tables columns) :
    Names (.name text :: tokens) tables columns := by
  have alone : Names [.name text] [] [] :=
    ⟨nofun, fun _ => rfl, fun _ undotted => references_name text undotted⟩
  exact alone.append later

/-- A table that is introduced. -/
theorem table {word : String} (introduces : word = "FROM" ∨ word = "JOIN") (text : String)
    (later : Names tokens tables columns) :
    Names (.symbol word :: .name text :: tokens) (text :: tables) columns := by
  have undotted : Undotted [.symbol word, .name text] := by
    rintro ⟨⟩
    exact absurd introduces (by decide)
  have alone : Names [.symbol word, .name text] [text] [] :=
    ⟨undotted, fun _ => if_pos introduces, fun _ undotted => references_name text undotted⟩
  exact alone.append later

/-- A column that is referred to. -/
theorem column (column : ColumnName) (later : Names tokens tables columns) :
    Names (.name column.table :: .symbol "." :: .name column.field :: tokens) tables
      (column :: columns) := by
  have alone : Names [.name column.table, .symbol ".", .name column.field] [] [column] := by
    have dot (rest : List Token) : introduced (.symbol "." :: .name column.field :: rest) =
        introduced rest := if_neg (by decide)
    exact ⟨nofun, dot, fun _ _ => rfl⟩
  exact alone.append later

/-- Parts with the same word between neighbours. -/
theorem intercalate {word : String} (neither : Neither word) {parts : List (List Token)}
    {found : List (List ColumnName)} (each : List.Forall₂ (Names · []) parts found) :
    Names ([Token.symbol word].intercalate parts) [] found.flatten := by
  induction each with
  | nil => exact nil
  | @cons part own parts found here later ih =>
    cases later with
    | nil => simpa using here
    | cons next others =>
      rw [List.intercalate_cons_cons, List.append_assoc, List.flatten_cons]
      exact here.append (symbol neither ih)

/-- **What is found in the whole.** -/
theorem introduced_eq (names : Names tokens tables columns) : introduced tokens = tables := by
  have whole := names.introduced_append []
  rwa [List.append_nil, introduced, List.append_nil] at whole

theorem references_eq (names : Names tokens tables columns) : references tokens = columns := by
  have whole := names.references_append [] nofun
  rwa [List.append_nil, references, List.append_nil] at whole

end Names

end SqlCraft.Sql
