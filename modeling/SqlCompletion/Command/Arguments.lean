import SqlCompletion.Completion
import SqlCompletion.Report
import SqlCompletion.Text.Decimal

/-!
# Command-line arguments

Options take a value, as `--line 1`, `--line=1`, `-l 1`, `-l1` or `-l=1`. Flags take none and their
letters may be bundled. `--` ends the options, and a lone `-` is not one. What is left is the file.

## When a value counts

The value of an option, and the file, are held back until the next option, flag or file is taken up,
or until the arguments end. Only then is it checked that a value is there, that the option was not
given before, and that the value is good. An unknown argument is reported at once, so it wins over a
bad value right before it.
-/

namespace SqlCompletion.Command

/-- Why the arguments are not accepted. -/
inductive ArgumentError where
  /-- No such option, or a file too many. -/
  | unknown
  /-- A value is missing, empty, or not one of those that are allowed. -/
  | invalidValue
  /-- A value is not a number, or too large. -/
  | notANumber
  /-- An option is given twice. -/
  | repeated
  /-- A flag is given a value. -/
  | unexpectedValue
  /-- The line or the column of the cursor is not given. -/
  | missing
  /-- The user asks for help. -/
  | help
  /-- The user asks for the version. -/
  | version
  deriving DecidableEq

/-- What a value is for. -/
inductive Slot where
  | file
  | line
  | column
  | schema
  | dialect
  | maxDepth
  | format
  deriving DecidableEq

/-- Options without a value. -/
inductive Flag where
  | compact
  | verbose
  | help
  | version
  deriving DecidableEq

/-- What a name or a letter stands for. -/
inductive Switch where
  | value (slot : Slot)
  | flag (flag : Flag)

/-- The options by name. -/
def longSwitch? (name : String) : Option Switch :=
  [("line", Switch.value .line), ("column", .value .column), ("schema", .value .schema),
    ("dialect", .value .dialect), ("max-depth", .value .maxDepth), ("format", .value .format),
    ("compact", .flag .compact), ("verbose", .flag .verbose), ("help", .flag .help),
    ("version", .flag .version)].lookup name

/-- The options by letter. -/
def shortSwitch? (letter : Char) : Option Switch :=
  [('l', Switch.value .line), ('s', .value .schema), ('d', .value .dialect), ('f', .value .format),
    ('c', .flag .compact), ('v', .flag .verbose), ('h', .flag .help), ('V', .flag .version)].lookup
    letter

/-- The arguments as far as they are known. -/
structure Draft where
  file : Option String := none
  line : Option Nat := none
  column : Option Nat := none
  schema : Option String := none
  dialect : Option Dialect := none
  maxDepth : Option Nat := none
  /-- The output is JSON. -/
  json : Option Bool := none
  compact : Bool := false
  verbose : Bool := false
  /-- A value that is held back; an option may still wait for it. -/
  pending : Option (Slot × Option String) := none

/-- A number that fits in a 64-bit word, with an optional plus sign. -/
def parseWord? (text : String) : Option Nat :=
  let digits :=
    match text.toList with
    | '+' :: rest => rest
    | cs => cs
  if digits.isEmpty then none else Text.wordOfDigits? digits

/-- The value as a number. -/
def readWord (text : String) : Except ArgumentError Nat :=
  match parseWord? text with
  | some n => .ok n
  | none => .error .notANumber

/-- The value as the name of a file. -/
def readPath (text : String) : Except ArgumentError String :=
  if text.isEmpty then .error .invalidValue else .ok text

/-- The value as a dialect. -/
def readDialect (text : String) : Except ArgumentError Dialect :=
  match Dialect.ofName? text with
  | some d => .ok d
  | none => .error .invalidValue

/-- The value as an output format; `true` is JSON. -/
def readFormat (text : String) : Except ArgumentError Bool :=
  if text = "json" then .ok true
  else if text = "table" then .ok false
  else .error .invalidValue

/-- A value for a slot that is still empty. -/
def once {α : Type} (old : Option α) (new : Except ArgumentError α) :
    Except ArgumentError (Option α) :=
  if old.isSome then .error .repeated else new.map some

/-- Puts a value into its slot. -/
def Draft.assign (d : Draft) (slot : Slot) (text : String) : Except ArgumentError Draft :=
  match slot with
  | .file => do return { d with file := ← once d.file (readPath text) }
  | .line => do return { d with line := ← once d.line (readWord text) }
  | .column => do return { d with column := ← once d.column (readWord text) }
  | .schema => do return { d with schema := ← once d.schema (readPath text) }
  | .dialect => do return { d with dialect := ← once d.dialect (readDialect text) }
  | .maxDepth => do return { d with maxDepth := ← once d.maxDepth (readWord text) }
  | .format => do return { d with json := ← once d.json (readFormat text) }

/-- Takes up the value that is held back. -/
def Draft.settle (d : Draft) : Except ArgumentError Draft :=
  match d.pending with
  | none => .ok d
  | some (_, none) => .error .invalidValue
  | some (slot, some text) => { d with pending := none }.assign slot text

/-- Sets a flag. -/
def Draft.setFlag (d : Draft) (flag : Flag) : Except ArgumentError Draft := do
  let d ← d.settle
  match flag with
  | .compact => if d.compact then .error .repeated else .ok { d with compact := true }
  | .verbose => if d.verbose then .error .repeated else .ok { d with verbose := true }
  | .help => .error .help
  | .version => .error .version

/-- Takes up an option, with the value attached to it if there is one. -/
def Draft.setValue (d : Draft) (slot : Slot) (attached : Option String) :
    Except ArgumentError Draft := do
  let d ← d.settle
  match attached with
  | some text => d.assign slot text
  | none => .ok { d with pending := some (slot, none) }

/-- An argument after two dashes. -/
def Draft.long (d : Draft) (cs : List Char) : Except ArgumentError Draft :=
  let name := cs.takeWhile (· ≠ '=')
  let attached := (cs.dropWhile (· ≠ '=')).tail?.map String.ofList
  match longSwitch? (String.ofList name), attached with
  | none, _ => .error .unknown
  | some (.value slot), attached => d.setValue slot attached
  | some (.flag _), some _ => .error .unexpectedValue
  | some (.flag flag), none => d.setFlag flag

/-- The value that is attached to a letter. -/
def attachedValue : List Char → Option String
  | [] => none
  | '=' :: rest => some (String.ofList rest)
  | cs => some (String.ofList cs)

/-- The letters after one dash. -/
def Draft.short (d : Draft) : List Char → Except ArgumentError Draft
  | [] => .ok d
  | c :: rest =>
    match shortSwitch? c with
    | none => .error .unknown
    | some (.value slot) => d.setValue slot (attachedValue rest)
    | some (.flag flag) =>
      match d.setFlag flag with
      | .ok d => d.short rest
      | .error e => .error e

/-- An argument that is not an option: the file. -/
def Draft.positional (d : Draft) (text : String) : Except ArgumentError Draft :=
  match d.file, d.pending with
  | some _, _ => .error .unknown
  | none, some (.file, _) => .error .unknown
  | none, _ => do
    let d ← d.settle
    return { d with pending := some (.file, some text) }

/-- An argument before `--`. -/
def Draft.argument (d : Draft) (text : String) : Except ArgumentError Draft :=
  match text.toList, d.pending with
  | '-' :: '-' :: cs, _ => d.long cs
  | '-' :: c :: cs, _ => d.short (c :: cs)
  | _, some (slot, none) => .ok { d with pending := some (slot, some text) }
  | _, _ => d.positional text

/-- The arguments, one after the other. -/
def Draft.arguments (d : Draft) (ended : Bool) : List String → Except ArgumentError Draft
  | [] => .ok d
  | text :: rest =>
    if ended then
      match d.positional text with
      | .ok d => d.arguments true rest
      | .error e => .error e
    else if text = "--" then d.arguments true rest
    else
      match d.argument text with
      | .ok d => d.arguments false rest
      | .error e => .error e

/-- What the command is asked to do. -/
structure Arguments where
  file : Option String
  position : Position
  schema : Option String
  options : Options
  json : Bool
  compact : Bool
  verbose : Bool

/-- Reads the arguments, the name of the program left out. -/
def Arguments.parse (argv : List String) : Except ArgumentError Arguments := do
  let d ← ({} : Draft).arguments false argv
  let d ← d.settle
  match d.line, d.column with
  | some line, some column =>
    return {
      file := d.file
      position := ⟨UInt64.ofNat line, UInt64.ofNat column⟩
      schema := d.schema
      options := {
        dialect := d.dialect.getD ({} : Options).dialect
        maxSubqueryDepth := d.maxDepth.getD ({} : Options).maxSubqueryDepth }
      json := d.json.getD false
      compact := d.compact
      verbose := d.verbose }
  | _, _ => .error .missing

/-- The form of the output. -/
def Arguments.format (a : Arguments) : Format :=
  if a.json then (if a.compact then .compactJson else .json) else .table

end SqlCompletion.Command
