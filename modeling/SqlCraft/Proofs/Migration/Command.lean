/-
**Commands: what a statement of a migration asks a database for.**

The text of a statement says which tables and constraints it is about. Names are quoted, so they can
be read back whatever characters they have, and every statement that a migration makes is read as
the command it was written for:

* `Command.read?` — the command that a text spells;
* `read?_createSql`, `read?_dropSql`, `read?_dropIfExistsSql` — the statements about a table;
* `read?_addForeignKeySql`, `read?_dropForeignKeySql` — the statements about a foreign key.
-/

import Mathlib.Data.List.Basic
import SqlCraft.Proofs.Sql.QuotedName
import SqlCraft.Table.Definition

namespace SqlCraft

open Sql (quote readName?)

/-- A foreign-key constraint: the table that holds it, its name, and the table it refers to. -/
structure Constraint where
  holder : String
  name : String
  target : String
deriving DecidableEq

/-- What a statement asks for. -/
inductive Command where
  | createTable (name : String)
  | dropTable (name : String) (ifExists : Bool)
  | dropConstraint (holder name : String)
  | addConstraint (constraint : Constraint)
deriving DecidableEq

namespace Command

/-- Reads words and the quoted name behind them; the name and what stands behind it. -/
def readNamed? (words : String) (text : List Char) : Option (String × List Char) :=
  (text.dropPrefix? words.toList).bind readName?

/-- Reads which constraint of a table is to be added. -/
def readAddition? (holder : String) (text : List Char) : Option Command := do
  let (name, text) ← readNamed? " ADD CONSTRAINT " text
  let (_, text) ← readNamed? " FOREIGN KEY (" text
  let (target, _) ← readNamed? ") REFERENCES " text
  return .addConstraint ⟨holder, name, target⟩

/-- Reads what is to be done with a constraint of a table. -/
def readChange? (holder : String) (text : List Char) : Option Command :=
  match readNamed? " DROP CONSTRAINT " text with
  | some (name, _) => some (.dropConstraint holder name)
  | none => readAddition? holder text

/-- Reads a change of a table. -/
def readAlteration? (text : List Char) : Option Command :=
  match readNamed? "ALTER TABLE " text with
  | some (holder, behind) => readChange? holder behind
  | none => none

/-- Reads a statement that drops a table. -/
def readDrop? (text : List Char) : Option Command :=
  match readNamed? "DROP TABLE IF EXISTS " text with
  | some (name, _) => some (.dropTable name true)
  | none => (readNamed? "DROP TABLE " text).map fun named => .dropTable named.1 false

/-- Reads a statement. -/
def read? (sql : String) : Option Command :=
  match readNamed? "CREATE TABLE " sql.toList with
  | some (name, _) => some (.createTable name)
  | none => readDrop? sql.toList <|> readAlteration? sql.toList

/-- A name behind the words that are looked for is read back. -/
theorem readNamed?_quote (words name : String) {rest : List Char}
    (apart : rest.head? ≠ some '\x60') :
    readNamed? words (words.toList ++ ((quote name).toList ++ rest)) = some (name, rest) := by
  have dropped : (words.toList ++ ((quote name).toList ++ rest)).dropPrefix? words.toList =
      some ((quote name).toList ++ rest) :=
    List.dropPrefix?_append_of_beq _ BEq.rfl
  rw [readNamed?, dropped, Option.bind_some, Sql.readName?_quote name apart]

/-! ### Statements about a table -/

theorem quote_toList (name : String) :
    (quote name).toList = '\x60' :: (Sql.doubleBackticks name.toList ++ ['\x60']) := by
  rw [quote, String.toList_ofList, List.cons_append]

@[simp] theorem read?_createSql (table : Table) :
    read? table.createSql = some (.createTable table.name) := by
  have text : table.createSql.toList = "CREATE TABLE ".toList ++ ((quote table.name).toList ++
      (" (\n  " ++ String.intercalate ",\n  " table.definitionLines ++ "\n)").toList) := by
    unfold Table.createSql
    simp only [String.toList_append, List.append_assoc]
  rw [read?, text, readNamed?_quote]
  simp

@[simp] theorem read?_dropIfExistsSql (table : Table) :
    read? table.dropIfExistsSql = some (.dropTable table.name true) := by
  have text : table.dropIfExistsSql.toList =
      "DROP TABLE IF EXISTS ".toList ++ ((quote table.name).toList ++ []) := by
    unfold Table.dropIfExistsSql
    simp only [String.toList_append, List.append_nil]
  have noCreate (behind : List Char) :
      readNamed? "CREATE TABLE " ("DROP TABLE IF EXISTS ".toList ++ behind) = none := rfl
  rw [read?, text, noCreate, readDrop?, readNamed?_quote _ _ (by simp)]
  rfl

@[simp] theorem read?_dropSql (table : Table) :
    read? table.dropSql = some (.dropTable table.name false) := by
  have text : table.dropSql.toList = "DROP TABLE ".toList ++ ((quote table.name).toList ++ []) := by
    unfold Table.dropSql
    simp only [String.toList_append, List.append_nil]
  have noCreate (behind : List Char) :
      readNamed? "CREATE TABLE " ("DROP TABLE ".toList ++ behind) = none := rfl
  have strict (behind : List Char) :
      readNamed? "DROP TABLE IF EXISTS " ("DROP TABLE ".toList ++ '\x60' :: behind) = none := rfl
  have named : readNamed? "DROP TABLE " ("DROP TABLE ".toList ++ ((quote table.name).toList ++ [])) =
      some (table.name, []) := readNamed?_quote _ _ (by simp)
  rw [quote_toList, List.cons_append] at text named
  rw [read?, text, noCreate, readDrop?, strict, named]
  rfl

/-! ### Statements about a foreign key -/

/-- A text that starts with the word for an alteration is read as a change of a constraint. -/
theorem read?_alter {sql : String} (holder : String) {rest : List Char}
    (text : sql.toList = "ALTER TABLE ".toList ++ ((quote holder).toList ++ rest))
    (apart : rest.head? ≠ some '\x60') : read? sql = readChange? holder rest := by
  have noCreate (behind : List Char) :
      readNamed? "CREATE TABLE " ("ALTER TABLE ".toList ++ behind) = none := rfl
  have noDrop (behind : List Char) : readDrop? ("ALTER TABLE ".toList ++ behind) = none := rfl
  rw [read?, text, noCreate, noDrop, readAlteration?, readNamed?_quote _ _ apart]
  rfl

@[simp] theorem read?_dropForeignKeySql (holder : String) (key : ForeignKey) :
    read? (Table.dropForeignKeySql holder key) =
      some (.dropConstraint holder (key.constraintOn holder)) := by
  have text : (Table.dropForeignKeySql holder key).toList =
      "ALTER TABLE ".toList ++ ((quote holder).toList ++
        (" DROP CONSTRAINT ".toList ++ ((quote (key.constraintOn holder)).toList ++ []))) := by
    unfold Table.dropForeignKeySql
    simp only [String.toList_append, List.append_assoc, List.append_nil]
  rw [read?_alter holder text (by simp), readChange?, readNamed?_quote]
  simp

/-- The parts of an added key are read one after another. -/
theorem readChange?_addition (holder name column target : String) {rest : List Char}
    (apart : rest.head? ≠ some '\x60') :
    readChange? holder (" ADD CONSTRAINT ".toList ++ ((quote name).toList ++
      (" FOREIGN KEY (".toList ++ ((quote column).toList ++
        (") REFERENCES ".toList ++ ((quote target).toList ++ rest)))))) =
      some (.addConstraint ⟨holder, name, target⟩) := by
  have noDrop (behind : List Char) :
      readNamed? " DROP CONSTRAINT " (" ADD CONSTRAINT ".toList ++ behind) = none := rfl
  unfold readChange? readAddition?
  rw [noDrop]
  dsimp only
  rw [readNamed?_quote _ _ (by simp), Option.bind_eq_bind, Option.bind_some,
    readNamed?_quote _ _ (by simp), Option.bind_some, readNamed?_quote _ _ apart, Option.bind_some]
  rfl

@[simp] theorem read?_addForeignKeySql (holder column : String) (key : ForeignKey) :
    read? (Table.addForeignKeySql holder column key) =
      some (.addConstraint ⟨holder, key.constraintOn holder, key.table⟩) := by
  obtain ⟨rest, text⟩ : ∃ rest, (Table.addForeignKeySql holder column key).toList =
      "ALTER TABLE ".toList ++ ((quote holder).toList ++
        (" ADD CONSTRAINT ".toList ++ ((quote (key.constraintOn holder)).toList ++
          (" FOREIGN KEY (".toList ++ ((quote column).toList ++
            (") REFERENCES ".toList ++ ((quote key.table).toList ++
              (" (".toList ++ rest)))))))) := by
    unfold Table.addForeignKeySql
    simp only [String.toList_append, List.append_assoc]
    exact ⟨_, rfl⟩
  rw [read?_alter holder text (by simp)]
  exact readChange?_addition holder _ column key.table (by simp)

end Command

end SqlCraft
