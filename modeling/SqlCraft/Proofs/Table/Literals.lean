/-
**The literals of a table's definition.**

A definition has names, string literals, SQL expressions, and words and numbers of its own. Only the
literals can be misread: a name comes back whatever characters it has, and an expression is the caller's,
who has to close its quotes.

* `Bare` — texts without quotes, as are all words and numbers of a definition;
* `Column.texts` — the texts that a column's definition has as literals;
* `Table.segments` — the names, literals and characters that a definition is meant to have;
* `createSql_literals` — a definition is read as it is meant if all its texts come back, and only then.
-/

import SqlCraft.Proofs.Sql.Segment
import SqlCraft.Table.Definition

namespace SqlCraft

open Sql (Segment Told Unquoted keepsBackslashes isQuote segments? stringLiteral quote quoteList)

/-! ### Words and numbers -/

/-- A text without quotes. -/
def Bare (text : String) : Prop := ∀ c ∈ text.toList, isQuote c = false

instance (text : String) : Decidable (Bare text) :=
  List.decidableBAll (fun c => isQuote c = false) text.toList

namespace Bare

theorem append {first second : String} (plain : Bare first) (later : Bare second) :
    Bare (first ++ second) := by
  intro c inside
  rw [String.toList_append, List.mem_append] at inside
  exact inside.elim (plain c) (later c)

theorem of_subset {text : String} (plain : Bare text) {part : List Char} (within : part ⊆ text.toList) :
    Bare (String.ofList part) := by
  intro c inside
  rw [String.toList_ofList] at inside
  exact plain c (within inside)

theorem isQuote_of_isDigit {c : Char} (digit : c.isDigit) : isQuote c = false := by
  rw [Bool.eq_false_iff]
  intro quote
  simp only [isQuote, Bool.or_eq_true, beq_iff_eq] at quote
  rcases quote with (rfl | rfl) | rfl <;> cases digit

theorem number (number : Nat) : Bare (toString number) := by
  intro c inside
  rw [Nat.toString_eq_ofList_toDigits, String.toList_ofList] at inside
  exact isQuote_of_isDigit (Nat.isDigit_of_mem_toDigits (by decide) (by decide) inside)

theorem integer (number : Int) : Bare (toString number) := by
  cases number with
  | ofNat magnitude => exact Bare.number magnitude
  | negSucc magnitude =>
    have sign : Bare "-" := by decide
    exact sign.append (Bare.number _)

theorem zeros (count : Nat) : Bare (Numeric.FloatStyle.zeros count) := by
  intro c inside
  rw [Numeric.FloatStyle.zeros, String.toList_ofList] at inside
  rw [List.eq_of_mem_replicate inside]
  rfl

theorem positionalText (digits : String) (plain : Bare digits) (exponent : Int) :
    Bare (Numeric.FloatStyle.sql.positionalText digits exponent) := by
  unfold Numeric.FloatStyle.positionalText
  dsimp only
  split
  · exact (plain.append (zeros _)).append (by decide)
  split
  · exact ((plain.of_subset (List.take_subset _ _)).append (by decide)).append
      (plain.of_subset (List.drop_subset _ _))
  · exact (append (by decide) (zeros _)).append plain

theorem trimmed (number : Nat) :
    Bare (String.ofList ((toString number).toList.reverse.dropWhile (· = '0')).reverse) := by
  refine (Bare.number number).of_subset fun c inside => ?_
  exact List.mem_reverse.1 ((List.dropWhile_subset _) (List.mem_reverse.1 inside))

theorem magnitudeText (number : Numeric.Dyadic) :
    Bare (Numeric.FloatStyle.sql.magnitudeText number) := by
  unfold Numeric.FloatStyle.magnitudeText
  dsimp only
  split
  · exact positionalText _ (trimmed _) _
  · exact absurd rfl ‹_›

theorem float (value : Float) : Bare (Numeric.FloatStyle.sql.text value) := by
  unfold Numeric.FloatStyle.text
  dsimp only
  have sign : Bare (if value.toBits.toNat < 0x8000000000000000 then "" else "-") := by
    split <;> decide
  split
  · decide
  split
  · exact sign.append (by decide)
  split
  · exact (sign.append (by decide)).append (by decide)
  · exact sign.append (magnitudeText _)

/-- What begins with a word does not go on with a quote. -/
theorem unquoted_append {word : String} (plain : Bare word) (some : word.toList ≠ [])
    (rest : List Char) : Unquoted (word.toList ++ rest) := by
  obtain ⟨c, others, begins⟩ := List.exists_cons_of_ne_nil some
  rw [begins]
  rintro d ⟨rfl⟩
  exact plain c (begins ▸ List.mem_cons_self)

end Bare

/-! ### Parts of a definition -/

namespace Sql

/-- The characters of a text, each as a segment of its own. -/
def signs (text : String) : List Segment := text.toList.map .sign

/-- The segments of quoted names with commas between them. -/
def nameSegments (names : List String) : List Segment :=
  (signs ", ").intercalate (names.map fun name => [.name name])

namespace Told

variable {sound : Prop} {meant : List Segment}

theorem word {word : String} (plain : Bare word) : Told word.toList True (signs word) :=
  Told.plain plain

theorem word_append (word : String) {text : String} (plain : Bare word)
    (told : Told text.toList sound meant) :
    Told (word ++ text).toList sound (signs word ++ meant) := by
  rw [String.toList_append]
  exact plain_append plain told

theorem append_word {text : String} (word : String) (plain : Bare word) (some : word.toList ≠ [])
    (told : Told text.toList sound meant) :
    Told (text ++ word).toList sound (meant ++ signs word) := by
  have apart := plain.unquoted_append some []
  rw [List.append_nil] at apart
  rw [String.toList_append]
  exact (told.append (Told.word plain) apart).of_iff (by simp)

/-- A name ends before a word. -/
theorem quote_append (name word : String) {text : String} (plain : Bare word)
    (some : word.toList ≠ []) (told : Told text.toList sound meant) :
    Told (Sql.quote name ++ (word ++ text)).toList sound (.name name :: (signs word ++ meant)) := by
  have apart := plain.unquoted_append some text.toList
  rw [← String.toList_append] at apart
  rw [String.toList_append]
  exact ((Told.quote name).append (word_append word plain told) apart).of_iff (by simp)

/-- Texts with a separator between them are told one by one. -/
theorem intercalate {Item : Type} {text : Item → String} {sound : Item → Prop}
    {meant : Item → List Segment} (separator : String) (plain : Bare separator)
    (some : separator.toList ≠ []) {items : List Item}
    (each : ∀ item ∈ items, Told (text item).toList (sound item) (meant item)) :
    Told (String.intercalate separator (items.map text)).toList (∀ item ∈ items, sound item)
      ((signs separator).intercalate (items.map meant)) := by
  rw [String.toList_intercalate, List.map_map]
  induction items with
  | nil => simpa using nil
  | cons item items ih =>
    have first := each item List.mem_cons_self
    cases items with
    | nil => simpa using first
    | cons second items =>
      have later := ih fun other inside => each other (List.mem_cons_of_mem _ inside)
      have told := first.append (plain_append plain later) (plain.unquoted_append some _)
      simp only [List.map_cons, List.intercalate_cons_cons, List.forall_mem_cons, List.append_assoc]
        at told ⊢
      exact told

theorem names (names : List String) : Told (quoteList names).toList True (nameSegments names) :=
  (intercalate ", " (by decide) (by decide) fun name _ => Told.quote name).of_iff (by simp)

end Told

end Sql

open Sql (signs nameSegments)

namespace DefaultValue

/-- The text of a default that is written as a literal. -/
def text? : DefaultValue → Option String
  | .string text => some text
  | _ => none

/-- The segments that a default is meant to have. An expression has those of its own. -/
def segments : DefaultValue → List Segment
  | .string text => [.literal text]
  | .expression sql => (segments? sql.toList).getD []
  | value => signs value.sql

/-- Whether an expression closes its quotes. -/
def closed : DefaultValue → Bool
  | .expression sql => (segments? sql.toList).isSome
  | _ => true

theorem told (value : DefaultValue) (closes : value.closed) :
    Told value.sql.toList (∀ text ∈ value.text?, keepsBackslashes text.toList) value.segments := by
  have word {value : DefaultValue} (plain : Bare value.sql) (free : value.text? = none) :
      Told value.sql.toList (∀ text ∈ value.text?, keepsBackslashes text.toList)
        (signs value.sql) := by
    refine (Told.word plain).of_iff ?_
    simp [free]
  cases value with
  | null => exact word (by decide) rfl
  | bool value => exact word (by cases value <;> decide) rfl
  | integer value => exact word (Bare.integer _) rfl
  | float value => exact word (Bare.float _) rfl
  | string text => exact (Told.literal text).of_iff (by simp [text?])
  | expression sql =>
    obtain ⟨found, read⟩ := Option.isSome_iff_exists.1 closes
    rw [segments, read]
    exact (Told.closed read).of_iff (by simp [text?])

end DefaultValue

/-- The segments of an optional clause. -/
theorem told_clause {Part : Type} (part : Option Part) (word : String) (plain : Bare word)
    {text : Part → String} {sound : Part → Prop} {meant : Part → List Segment}
    (each : ∀ value ∈ part, Told (text value).toList (sound value) (meant value)) :
    Told ((part.map fun value => word ++ text value).getD "").toList (∀ value ∈ part, sound value)
      ((part.map fun value => signs word ++ meant value).getD []) := by
  cases part with
  | none => simpa using Told.nil
  | some value => simpa using Told.word_append word plain (each value rfl)

/-! ### Columns -/

namespace Column

variable (column : Column)

/-- What stands between the name of a column and its default. -/
def attributes : String :=
  " " ++ column.type.name
    ++ (match column.size with
      | some size => "(" ++ toString size.toNat ++ ")"
      | none => "")
    ++ (if column.unsigned then " UNSIGNED" else "")
    ++ (if column.notNull then " NOT NULL" else "")
    ++ (if column.autoIncrement then " AUTO_INCREMENT" else "")

/-- The texts that the definition of a column has as literals. -/
def texts : List String :=
  (column.sqlDefault?.bind DefaultValue.text?).toList ++ column.sqlComment?.toList

/-- The segments that the definition of a column is meant to have. -/
def segments : List Segment :=
  .name column.name :: (signs column.attributes ++
    ((column.sqlDefault?.map fun value => signs " DEFAULT " ++ value.segments).getD [] ++
      (column.sqlComment?.map fun comment => signs " COMMENT " ++ [.literal comment]).getD []))

theorem sql_eq : column.sql = quote column.name ++ (column.attributes ++
    ((column.sqlDefault?.map fun value => " DEFAULT " ++ value.sql).getD "" ++
      (column.sqlComment?.map fun comment => " COMMENT " ++ stringLiteral comment).getD "")) := by
  unfold sql attributes
  simp only [String.append_assoc]
  cases column.sqlDefault? <;> cases column.sqlComment? <;> rfl

theorem attributes_plain : Bare column.attributes := by
  unfold attributes
  have type : Bare column.type.name := by cases column.type <;> decide
  have size : Bare (match column.size with
      | some size => "(" ++ toString size.toNat ++ ")"
      | none => "") := by
    cases column.size with
    | none => decide
    | some size => exact (Bare.append (by decide) (Bare.number _)).append (by decide)
  have flag {word : String} (plain : Bare word) (set : Bool) : Bare (if set then word else "") := by
    cases set
    · exact (by decide : Bare "")
    · exact plain
  exact ((((Bare.append (by decide) type).append size).append (flag (by decide) _)).append
    (flag (by decide) _)).append (flag (by decide) _)

/-- **A column is read as it is meant if its texts come back from their literals, and only then.** -/
theorem told (closes : ∀ value ∈ column.sqlDefault?, value.closed) :
    Told column.sql.toList (∀ text ∈ column.texts, keepsBackslashes text.toList) column.segments := by
  have default := told_clause column.sqlDefault? " DEFAULT " (by decide)
    fun value held => value.told (closes value held)
  have comment := told_clause column.sqlComment? " COMMENT " (by decide)
    fun text _ => Told.literal text
  have apart : Unquoted ((column.sqlComment?.map fun text =>
      " COMMENT " ++ stringLiteral text).getD "").toList := by
    cases column.sqlComment? with
    | none => exact fun c first => by cases first
    | some text =>
      rw [Option.map_some, Option.getD_some, String.toList_append]
      exact Bare.unquoted_append (by decide) (by decide) _
  have clauses := default.append comment apart
  rw [← String.toList_append] at clauses
  have whole := Told.quote_append column.name _ column.attributes_plain (by simp [attributes]) clauses
  rw [← sql_eq] at whole
  refine whole.of_iff ?_
  unfold texts
  cases column.sqlDefault? <;> simp [or_imp, forall_and]

end Column

/-! ### Tables -/

namespace Table

/-- The lines of a definition. -/
inductive Line where
  | column (column : Column)
  | primaryKey
  | key (kind : KeyKind) (columns : List String)

variable (table : Table)

/-- The lines that a table's definition has. -/
def lines : List Line :=
  table.columns.map .column ++ (if table.primaryKey.isEmpty then [] else [.primaryKey]) ++
    [KeyKind.index, KeyKind.unique].flatMap fun kind => (table.keys kind).map (.key kind)

/-- The text of a line. -/
def lineSql : Line → String
  | .column column => column.sql
  | .primaryKey => "PRIMARY KEY (" ++ quoteList table.primaryKey ++ ")"
  | .key kind columns => table.keySql kind columns

/-- The segments that a line is meant to have. -/
def lineSegments : Line → List Segment
  | .column column => column.segments
  | .primaryKey => signs "PRIMARY KEY (" ++ (nameSegments table.primaryKey ++ signs ")")
  | .key kind columns => signs (kind.keyword ++ " ") ++
      (.name (table.keyName kind columns) :: (signs " (" ++ (nameSegments columns ++ signs ")")))

/-- The segments that a definition is meant to have. -/
def segments : List Segment :=
  signs "CREATE TABLE " ++ (.name table.name :: (signs " (\n  " ++
    ((signs ",\n  ").intercalate (table.lines.map table.lineSegments) ++ signs "\n)")))

theorem definitionLines_eq : table.definitionLines = table.lines.map table.lineSql := by
  unfold definitionLines lines primaryKeySql
  split <;> simp [Function.comp_def, lineSql]

/-- The texts of a line come back from their literals. -/
def Line.Keeps : Line → Prop
  | .column declared => ∀ text ∈ declared.texts, keepsBackslashes text.toList
  | _ => True

theorem told_line (closes : ∀ column ∈ table.columns, ∀ value ∈ column.sqlDefault?, value.closed)
    {line : Line} (inside : line ∈ table.lines) :
    Told (table.lineSql line).toList line.Keeps (table.lineSegments line) := by
  have listed (names : List String) :
      Told (quoteList names ++ ")").toList True (nameSegments names ++ signs ")") :=
    (Told.names names).append_word ")" (by decide) (by decide)
  cases line with
  | column declared =>
    refine declared.told (closes declared ?_)
    simpa [lines] using inside
  | primaryKey =>
    have told := Told.word_append "PRIMARY KEY (" (by decide) (listed table.primaryKey)
    rwa [← String.append_assoc] at told
  | key kind columns =>
    have named := Told.quote_append (table.keyName kind columns) " (" (by decide) (by decide)
      (listed columns)
    have told := Told.word_append (kind.keyword ++ " ") (by cases kind <;> decide) named
    simp only [← String.append_assoc] at told
    exact told

/-- A definition tells what it is meant to be if all its texts come back from their literals, and only
then. -/
theorem told_createSql
    (closes : ∀ column ∈ table.columns, ∀ value ∈ column.sqlDefault?, value.closed) :
    Told table.createSql.toList
      (∀ column ∈ table.columns, ∀ text ∈ column.texts, keepsBackslashes text.toList)
      table.segments := by
  have body := Told.intercalate ",\n  " (by decide) (by decide) fun _ => table.told_line closes
  rw [← definitionLines_eq] at body
  have lines := body.append_word "\n)" (by decide) (by decide)
  have named := Told.quote_append table.name " (\n  " (by decide) (by decide) lines
  have told := Told.word_append "CREATE TABLE " (by decide) named
  simp only [← String.append_assoc] at told
  refine told.of_iff ⟨fun keeps column declared => ?_, fun keeps line inside => ?_⟩
  · exact keeps (.column column) (by simpa [Table.lines] using declared)
  · cases line with
    | column declared => exact keeps declared (by simpa [Table.lines] using inside)
    | primaryKey | key => trivial

/-- A definition is read as it is meant if all its texts come back from their literals, and only then. -/
theorem segments?_createSql
    (closes : ∀ column ∈ table.columns, ∀ value ∈ column.sqlDefault?, value.closed) :
    segments? table.createSql.toList = some table.segments ↔
      ∀ column ∈ table.columns, ∀ text ∈ column.texts, keepsBackslashes text.toList := by
  have told := table.told_createSql closes [] [] (by decide)
  rwa [List.append_nil, List.append_nil, Sql.segments?_nil, eq_self, and_true] at told

/-- **A literal cannot be escaped from as long as the backslashes of its text stand for themselves.** The
literal of a text, whatever stands behind it, is then read up to the quote that closes it, as the text; and
a definition in which this is so of every default and comment is read as it is meant. With any other
backslash in a text neither holds. -/
theorem createSql_literals (table : Table) :
    (∀ (text : String) (rest : List Char), rest.head? ≠ some '\'' →
      (Sql.readText? ((DefaultValue.string text).sql.toList ++ rest) = some (text, rest) ↔
        keepsBackslashes text.toList)) ∧
    ((∀ column ∈ table.columns, ∀ value ∈ column.sqlDefault?, value.closed) →
      (segments? table.createSql.toList = some table.segments ↔
        ∀ column ∈ table.columns, ∀ text ∈ column.texts, keepsBackslashes text.toList)) :=
  ⟨fun text _ apart => Sql.readText?_stringLiteral text apart, table.segments?_createSql⟩

/-- Recordings: texts with both quotes and with a backslash that is kept, and a time that the database
fills in. -/
def recordings : Table where
  name := "recordings"
  columns := [
    { name := "title", type := .varchar, size := some 40, defaultValue := some (.string "it's 100\\%") },
    { name := "made", type := .timestamp, defaultValue := some (.expression "CURRENT_TIMESTAMP") },
    { name := "live", type := .tinyint, comment := some "'on \"stage\"'", boolean := true }]

theorem createSql_literals_recordings :
    (∀ column ∈ recordings.columns, ∀ value ∈ column.sqlDefault?, value.closed) ∧
    Sql.readText? (DefaultValue.string "it's 100\\%").sql.toList = some ("it's 100\\%", []) ∧
    segments? recordings.createSql.toList = some recordings.segments := by
  have closes : ∀ column ∈ recordings.columns, ∀ value ∈ column.sqlDefault?, value.closed := by
    have own : (segments? "CURRENT_TIMESTAMP".toList).isSome := by cbv
    simpa [recordings, Column.sqlDefault?, DefaultValue.closed] using own
  obtain ⟨alone, whole⟩ := createSql_literals recordings
  have read := (alone "it's 100\\%" [] (by decide)).2 (by decide)
  rw [List.append_nil] at read
  exact ⟨closes, read, (whole closes).2 (by decide +kernel)⟩

/-- A table with one column of text. -/
def noted (defaultValue : Option DefaultValue) (comment : Option String) : Table :=
  ⟨"songs", [{ name := "path", type := .varchar, size := some 20, defaultValue, comment }]⟩

/-- A path with a backslash is stored as another text, its definition is read as something else, and with
a backslash at the end of a comment nothing closes the comment. -/
theorem createSql_misread :
    Sql.readText? (DefaultValue.string "C:\\new").sql.toList = some ("C:\new", []) ∧
    segments? (noted (some (.string "C:\\new")) none).createSql.toList ≠
      some (noted (some (.string "C:\\new")) none).segments ∧
    segments? (noted none (some "\\")).createSql.toList = none := by
  refine ⟨by decide +kernel, fun read => ?_, by cbv⟩
  have closes : ∀ column ∈ (noted (some (.string "C:\\new")) none).columns,
      ∀ value ∈ column.sqlDefault?, value.closed := by
    simp [noted, Column.sqlDefault?, DefaultValue.closed]
  have kept := (segments?_createSql _ closes).1 read _ List.mem_cons_self "C:\\new" (by decide +kernel)
  exact absurd kept (by decide)

end Table

end SqlCraft
