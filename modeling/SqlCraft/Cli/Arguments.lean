/-
**Command-line arguments.**

Options come before the command: the schema file, which must be given, the snapshot file, the
database's URL, the number of connections, and whether to be verbose. An option with a value takes
it from the same argument, behind `=` or directly behind its letter, or else from the next one,
which must not look like an option. No option may be given twice. Only `migrate` has an option of
its own.

* `Arguments.parse` — the arguments, or why the program ends without them. Arguments are looked at
  from left to right, and the first that settles the matter does.
* `Ending.text`, `Ending.exitCode` — what is printed then, and how the program ends.
-/

import SqlCraft.Numeric.Digit

namespace SqlCraft.Cli

/-- What the program is asked to do. -/
inductive Command where
  /-- Prints the SQL of every declared table. -/
  | sql
  /-- Lists the tables that are changed. -/
  | diff
  /-- Rebuilds the tables that are changed, or only prints the statements. -/
  | migrate (dryRun : Bool)
deriving DecidableEq, Repr

/-- Why the program ends without doing anything. -/
inductive Ending where
  | usage
  | help
  | version
deriving DecidableEq, Repr

namespace Ending

/-- Bad arguments are an error, questions about the program are not. -/
def exitCode : Ending → UInt32
  | .usage => 2
  | .help => 0
  | .version => 0

/-- What the program of the given name prints. -/
def text (program : String) : Ending → String
  | .version => program ++ " 0.1.0\n"
  | _ => "Usage: " ++ program ++ " [OPTIONS] --schema <FILE> <COMMAND>\n\n" ++
    "Commands:\n" ++
    "  migrate [--dry-run]      Rebuild every table that differs from the snapshot\n" ++
    "  diff                     List the tables that differ from the snapshot\n" ++
    "  sql                      Print the SQL of every declared table\n" ++
    "  help                     Print this text\n\n" ++
    "Options:\n" ++
    "  -s, --schema <FILE>      The declared tables\n" ++
    "      --snapshot <FILE>    The tables last applied\n" ++
    "  -d, --database <URL>     The database\n" ++
    "      --max-connections <NUMBER>\n" ++
    "  -v, --verbose\n" ++
    "  -h, --help\n" ++
    "  -V, --version\n"

end Ending

/-- The arguments of a run. -/
structure Arguments where
  schema : String
  snapshot : String
  database : String
  maxConnections : Nat
  verbose : Bool
  command : Command
deriving DecidableEq, Repr

/-- The options found so far. -/
structure Options where
  schema : Option String := none
  snapshot : Option String := none
  database : Option String := none
  maxConnections : Option Nat := none
  verbose : Bool := false
deriving DecidableEq, Repr

/-- An option that takes a value. -/
inductive ValueOption where
  | schema
  | snapshot
  | database
  | maxConnections
deriving DecidableEq, Repr

namespace Options

/-- An integer with an optional sign, if it is at least zero and fits 32 bits. -/
def connections? (text : String) : Option Nat :=
  let (negative, digits) := match text.toList with
    | '-' :: rest => (true, rest)
    | '+' :: rest => (false, rest)
    | rest => (false, rest)
  (Numeric.inBase? 10 digits).filter fun value =>
    decide (value < UInt32.size) && (value == 0 || !negative)

/-- The options with a value set; a second value, an empty path and a bad number are refused. -/
def set (options : Options) (option : ValueOption) (value : String) : Except Ending Options :=
  match option with
  | .schema =>
    if options.schema.isSome || value.isEmpty then .error .usage
    else .ok { options with schema := some value }
  | .snapshot =>
    if options.snapshot.isSome || value.isEmpty then .error .usage
    else .ok { options with snapshot := some value }
  | .database =>
    if options.database.isSome then .error .usage else .ok { options with database := some value }
  | .maxConnections =>
    match options.maxConnections, connections? value with
    | none, some count => .ok { options with maxConnections := some count }
    | _, _ => .error .usage

/-- The options with verbosity on, once. -/
def setVerbose (options : Options) : Except Ending Options :=
  if options.verbose then .error .usage else .ok { options with verbose := true }

/-- The arguments of a command behind these options; the URL that the environment gives stands in
for one that is not among them. -/
def finish (options : Options) (environmentUrl : Option String) (command : Command) :
    Except Ending Arguments :=
  match options.schema with
  | none => .error .usage
  | some schema => .ok {
      schema
      snapshot := options.snapshot.getD "db_schema.json"
      database := (options.database <|> environmentUrl).getD "mysql://root@localhost/test"
      maxConnections := options.maxConnections.getD 5
      verbose := options.verbose
      command }

end Options

namespace Arguments

/-- What an argument before the command asks for, with the options changed by flags in it. -/
inductive Request where
  /-- Nothing more. -/
  | done (options : Options)
  /-- An option with its value. -/
  | value (options : Options) (option : ValueOption) (value : String)
  /-- An option whose value is the next argument. -/
  | next (options : Options) (option : ValueOption)
  /-- The name of a command. -/
  | command (name : String)
  /-- The end of the program. -/
  | ending (ending : Ending)

/-- A request for an option whose value may be attached. -/
def requestValue (options : Options) (option : ValueOption) : Option String → Request
  | some value => .value options option value
  | none => .next options option

/-- A request of the long form, with the value behind its equals sign. -/
def requestLong (options : Options) (name : String) (attached : Option String) : Request :=
  match name, attached with
  | "schema", value => requestValue options .schema value
  | "snapshot", value => requestValue options .snapshot value
  | "database", value => requestValue options .database value
  | "max-connections", value => requestValue options .maxConnections value
  | "verbose", none =>
    match options.setVerbose with
    | .ok options => .done options
    | .error ending => .ending ending
  | "help", none => .ending .help
  | "version", none => .ending .version
  | _, _ => .ending .usage

/-- The value attached to the letter of an option, if there is one. -/
def attachedValue : List Char → Option String
  | [] => none
  | '=' :: value => some (String.ofList value)
  | value => some (String.ofList value)

/-- A request of the short form: letters of flags, the last of which may take a value. -/
def requestShort (options : Options) : List Char → Request
  | [] => .done options
  | 'v' :: rest =>
    match options.setVerbose with
    | .ok options => requestShort options rest
    | .error ending => .ending ending
  | 's' :: rest => requestValue options .schema (attachedValue rest)
  | 'd' :: rest => requestValue options .database (attachedValue rest)
  | 'h' :: _ => .ending .help
  | 'V' :: _ => .ending .version
  | _ => .ending .usage

/-- The request of an argument before the command. -/
def request (options : Options) (argument : String) : Request :=
  match argument.toList with
  | ['-', '-'] => .ending .usage
  | '-' :: '-' :: long =>
    let name := String.ofList (long.takeWhile (· ≠ '='))
    match long.dropWhile (· ≠ '=') with
    | [] => requestLong options name none
    | _ :: value => requestLong options name (some (String.ofList value))
  | '-' :: c :: rest => requestShort options (c :: rest)
  | _ => .command argument

/-- Whether an argument cannot be the value of an option before it. -/
def looksLikeOption (argument : String) : Bool :=
  match argument.toList with
  | '-' :: _ :: _ => true
  | _ => false

/-- What is asked for behind a command that has no options: nothing, or help. -/
def parsePlain (command : Command) : List String → Except Ending Command
  | [] => .ok command
  | ["--"] => .ok command
  | "--help" :: _ => .error .help
  | argument :: _ => if argument.startsWith "-h" then .error .help else .error .usage

/-- The options of `migrate`. -/
def parseMigrate (dryRun : Bool) : List String → Except Ending Command
  | "--dry-run" :: rest => if dryRun then .error .usage else parseMigrate true rest
  | rest => parsePlain (.migrate dryRun) rest

/-- What is asked for behind `help`. -/
def parseHelp : List String → Ending
  | [] => .help
  | [name] => if ["sql", "diff", "migrate", "help"].contains name then .help else .usage
  | _ => .usage

/-- A command with the arguments behind it. -/
def parseCommand (name : String) (rest : List String) : Except Ending Command :=
  match name with
  | "sql" => parsePlain .sql rest
  | "diff" => parsePlain .diff rest
  | "migrate" => parseMigrate false rest
  | "help" => .error (parseHelp rest)
  | _ => .error .usage

/-- The options and the command in some arguments, behind given options. -/
def parseFrom (environmentUrl : Option String) (options : Options) :
    List String → Except Ending Arguments
  | [] => .error .usage
  | argument :: rest =>
    match request options argument with
    | .done options => parseFrom environmentUrl options rest
    | .value options option value => do parseFrom environmentUrl (← options.set option value) rest
    | .next options option =>
      match rest with
      | [] => .error .usage
      | value :: rest =>
        if looksLikeOption value then .error .usage
        else do parseFrom environmentUrl (← options.set option value) rest
    | .command name => do options.finish environmentUrl (← parseCommand name rest)
    | .ending ending => .error ending

/-- The arguments of the program, in an environment that may give the database's URL. -/
def parse (environmentUrl : Option String) (arguments : List String) : Except Ending Arguments :=
  parseFrom environmentUrl {} arguments

end Arguments

end SqlCraft.Cli
