import SqlCompletion.Command.Arguments
import SqlCompletion.Json.Reader

/-!
# Running the command

One run reads a document and a schema, completes at the cursor and renders the answer. What can be
read is given as a function, so that a run is a value like any other; what cannot be read gives the
system's own reason.
-/

namespace SqlCompletion.Command

/-! ## Reading -/

/-- What a run can read. -/
structure Sources where
  /-- The content of a file, or why it cannot be read. -/
  file : String → Except String String
  /-- The content of standard input, or why it cannot be read. -/
  input : Except String String

/-- Why the document or the schema cannot be had. -/
inductive LoadError where
  | document (name reason : String)
  | standardInput (reason : String)
  | schema (name reason : String)
  | invalidSchema (name : String)
  deriving DecidableEq

/-- What failed, without the system's reason. -/
def LoadError.message : LoadError → String
  | .document name _ => "Failed to read file: " ++ name
  | .standardInput _ => "Failed to read from stdin"
  | .schema name _ => "Failed to read schema file: " ++ name
  | .invalidSchema name => "Failed to parse schema file: " ++ name

/-- What failed, with the system's reason where there is one. -/
def LoadError.report (e : LoadError) : String :=
  match e with
  | .document _ reason | .standardInput reason | .schema _ reason => e.message ++ ": " ++ reason
  | .invalidSchema _ => e.message

/-- The document: the content of the file, or of standard input when there is none. -/
def loadDocument (sources : Sources) : Option String → Except LoadError String
  | none => sources.input.mapError .standardInput
  | some name => (sources.file name).mapError (.document name)

/-- The schema of a JSON file; without a file nothing is known. Members of the file that are not
part of a schema need not be readable. -/
def loadSchema (sources : Sources) : Option String → Except LoadError Schema
  | none => .ok {}
  | some name => do
    let text ← (sources.file name).mapError (.schema name)
    match (Json.parseLoosely? text).bind Schema.ofJson? with
    | some schema => .ok schema
    | none => .error (.invalidSchema name)

/-! ## Failures -/

/-- Why a run prints no answer. -/
inductive Failure where
  | load (e : LoadError)
  | completion (e : CompletionError)
  deriving DecidableEq

/-- The exit code of a failure. -/
def Failure.exitCode : Failure → Nat
  | .completion _ => 1
  | .load _ => 66

/-- The line printed for a failure. -/
def Failure.report : Failure → String
  | .load e => "sqlhint: error: " ++ e.report
  | .completion e => "sqlhint: completion failed: " ++ e.message

/-! ## Running -/

/-- What one run prints. The document is read before the schema. -/
def run (parserOf : Dialect → Parser) (sources : Sources) (args : Arguments) :
    Except Failure String := do
  let sql ← (loadDocument sources args.file).mapError .load
  let schema ← (loadSchema sources args.schema).mapError .load
  let options := args.options
  let answer ←
    (complete (parserOf options.dialect) options sql args.position schema).mapError .completion
  return answer.render args.format ++ (if args.json then "\n" else "")

/-- The exit code of the command and what it writes. -/
structure Response where
  exitCode : Nat
  stdout : String := ""
  stderr : String := ""
  deriving DecidableEq

/-- The name and version of the command. -/
def versionText : String := "sqlhint 0.2.0"

/-- How the command is called. -/
def usageText : String := "Usage: sqlhint [OPTIONS] --line <LINE> --column <COLUMN> [FILE]"

/-- What the command does and the options that it takes. -/
def helpText : String :=
  "\n".intercalate [
    "Suggest SQL completions at a cursor position",
    "",
    usageText,
    "",
    "Arguments:",
    "  [FILE]  SQL file to complete (reads from stdin if not provided)",
    "",
    "Options:",
    "  -l, --line <LINE>            Zero-based cursor line",
    "      --column <COLUMN>        Zero-based cursor column, in characters",
    "  -s, --schema <FILE>          Schema JSON file with tables, columns and functions",
    "  -d, --dialect <DIALECT>      SQL dialect [default: generic] [possible values: " ++
      ", ".intercalate (Dialect.all.map Dialect.name) ++ "]",
    "      --max-depth <MAX_DEPTH>  " ++
      "Maximum nesting of incomplete subqueries to follow [default: 32]",
    "  -f, --format <FORMAT>        Output format [default: table] [possible values: table, json]",
    "  -c, --compact                Compact JSON output (no pretty-printing)",
    "  -v, --verbose                Accepted for scripts; nothing is logged",
    "  -h, --help                   Print help",
    "  -V, --version                Print version"]

/-- What is wrong with arguments that are not accepted. -/
def ArgumentError.message : ArgumentError → String
  | .unknown => "unexpected argument"
  | .invalidValue => "a value is missing or is not one of the possible values"
  | .notANumber => "a value is not a number"
  | .repeated => "an argument cannot be used multiple times"
  | .unexpectedValue => "a flag takes no value"
  | .missing => "the line and the column of the cursor are required"
  | .help => "help was asked for"
  | .version => "the version was asked for"

/-- The answer to arguments that ask for no completion. Help and version are not failures. -/
def ArgumentError.response : ArgumentError → Response
  | .help => { exitCode := 0, stdout := helpText ++ "\n" }
  | .version => { exitCode := 0, stdout := versionText ++ "\n" }
  | e => { exitCode := 2, stderr := "error: " ++ e.message ++ "\n\n" ++ usageText ++ "\n" }

/-- The answer to a list of arguments. -/
def respond (parserOf : Dialect → Parser) (sources : Sources) (argv : List String) : Response :=
  match Arguments.parse argv with
  | .error e => e.response
  | .ok args =>
    match run parserOf sources args with
    | .ok text => { exitCode := 0, stdout := text }
    | .error failure => { exitCode := failure.exitCode, stderr := failure.report ++ "\n" }

end SqlCompletion.Command
