import SqlCompletion.Sql.Grammar.DataType

/-!
# Rows in files

The statements that move rows between tables and files: `COPY`, `UNLOAD`, `EXPORT` and `LOAD`.
Nothing of them is kept.
-/

namespace SqlCompletion.Sql.Rule

/-! ## Options -/

/-- A string of one character. -/
def characterLiteral (d : Dialect) : Rule Unit := do
  let t ← peek
  let value ← textLiteral d
  if value.utf8ByteSize != 1 then
    throw (.note ("Expect a char, found \"" ++ value ++ "\"") (t.map (·.range.start)))

/-- An option of `COPY` in parentheses. -/
def copyOption (d : Dialect) : Rule Unit := do
  match ← oneOf? ["FORMAT", "FREEZE", "DELIMITER", "NULL", "HEADER", "QUOTE", "ESCAPE",
    "FORCE_QUOTE", "FORCE_NOT_NULL", "FORCE_NULL", "ENCODING"] with
  | some "FORMAT" => discard identifier
  | some "FREEZE" | some "HEADER" => discard (oneOf? ["TRUE", "FALSE"])
  | some "DELIMITER" | some "QUOTE" | some "ESCAPE" => characterLiteral d
  | some "NULL" | some "ENCODING" => discard (textLiteral d)
  | some _ => discard (columnList d identifier)
  | none => expected "option"

/-- An option of files with comma-separated values. -/
def separatedOption (d : Dialect) : Rule Unit := do
  match ← oneOf? ["HEADER", "QUOTE", "ESCAPE", "FORCE"] with
  | some "HEADER" => return
  | some "FORCE" =>
    if ← keywords? ["NOT", "NULL"] <||> keyword? "QUOTE" then discard (list d identifier)
    else expected "csv option"
  | some _ =>
    let _ ← keyword? "AS"
    characterLiteral d
  | none => expected "csv option"

/-- Takes as many of the things that a rule reads as there are. -/
def attemptAll (r : Rule Unit) : Rule Unit :=
  iterate (fun _ => attempt r) ()

/-- The role with which files are read and written. -/
def fileRole (d : Dialect) : Rule Unit := do
  if !(← keyword? "DEFAULT") then discard (textLiteral d)

/-- Options of files that are words alone. -/
def plainFileOptions : List String :=
  ["ACCEPTANYDATE", "ADDQUOTES", "ALLOWOVERWRITE", "BINARY", "BLANKSASNULL", "BZIP2", "CLEANPATH",
    "EMPTYASNULL", "ESCAPE", "GZIP", "HEADER", "JSON", "PARQUET", "TRUNCATECOLUMNS", "ZSTD"]

/-- The rule for the rest of an option of files that starts with the given word. -/
def fileOptionRest? (d : Dialect) (k : String) : Option (Rule Unit) :=
  let afterAs (value : Rule Unit) : Option (Rule Unit) := some do
    let _ ← keyword? "AS"
    value
  match k with
  | "ACCEPTINVCHARS" | "DATEFORMAT" | "TIMEFORMAT" => afterAs do
    if (← token) matches some (.string .single _) then discard (textLiteral d)
  | "CSV" => some (attemptAll (separatedOption d))
  | "DELIMITER" => afterAs (characterLiteral d)
  | "ENCRYPTED" => some (discard (keyword? "AUTO"))
  | "EXTENSION" | "FIXEDWIDTH" => some (discard (textLiteral d))
  | "IAM_ROLE" => some (fileRole d)
  | "IGNOREHEADER" => afterAs (discard wholeNumber)
  | "MANIFEST" => some (discard (keyword? "VERBOSE"))
  | "MAXFILESIZE" | "ROWGROUPSIZE" => afterAs do
    numberLiteral d
    discard (oneOf? ["MB", "GB"])
  | "NULL" | "REGION" => afterAs (discard (textLiteral d))
  | "PARALLEL" => some (discard (oneOf? ["TRUE", "FALSE", "ON", "OFF"]))
  | "PARTITION" => some do
    let _ ← keyword "BY"
    let _ ← columnList d identifier
    discard (keyword? "INCLUDE")
  | k => if plainFileOptions.contains k then some (pure ()) else none

/-- An option of files without parentheses. -/
def fileOption (d : Dialect) : Rule Unit := do
  if ← keyword? "FORMAT" then discard (keyword? "AS")
  match fileOptionRest? d ((← peekKeyword?).getD "") with
  | some rest =>
    let _ ← next
    rest
  | none => expected "option"

/-! ## Statements -/

/-- The tokens after the rows that stand in the text itself. A backslash and a dot end them; another
token after a backslash is passed over, which is done if `escaped` holds. -/
def afterRows (escaped : Bool) : List Lexeme → List Lexeme
  | [] => []
  | t :: rest =>
    if escaped then afterRows t.token.isBlank rest
    else if t.token = .symbol .backslash then
      if (nth? 0 rest).map Lexeme.token == some (.symbol .period) then afterFirst rest
      else afterRows true rest
    else afterRows false rest

/-- Where `COPY` reads rows from or writes them to; whether they stand in the text. -/
def copyTarget (d : Dialect) : Rule Bool := do
  match ← oneOf? ["STDIN", "STDOUT", "PROGRAM"] with
  | some "STDIN" => return true
  | some "STDOUT" => return false
  | _ =>
    let _ ← textLiteral d
    return false

/-- The rest of `COPY`. -/
def copy (g : Level) : Rule Unit := do
  let d := g.dialect
  let isQuery ← isSymbol .leftParen
  if isQuery then discard (parens g.query)
  else
    let _ ← objectName g
    discard (columnList? d false identifier)
  match ← oneOf? ["FROM", "TO"] with
  | some direction =>
    if direction = "FROM" && isQuery then
      throw (.note "COPY ... FROM does not support query as a source" none)
  | none => expected "FROM or TO"
  let inText ← copyTarget d
  let _ ← keyword? "WITH"
  if ← isSymbol .leftParen then discard (parens (list d (copyOption d)))
  attemptAll (fileOption d)
  if inText then
    let _ ← symbol .semicolon
    modify (afterRows false)

/-- The rest of `UNLOAD`. -/
def unload (g : Level) : Rule Unit := do
  let d := g.dialect
  parens do
    if (← token) matches some (.string .single _) then discard (textLiteral d)
    else discard g.query
  let _ ← keyword "TO"
  let _ ← identifier
  if ← keyword? "IAM_ROLE" then fileRole d
  let _ ← options? g "WITH"
  attemptAll (fileOption d)

/-- The rest of `EXPORT`. -/
def exportData (g : Level) : Rule Unit := do
  let _ ← keyword "DATA"
  if ← keywords? ["WITH", "CONNECTION"] then discard (objectName g)
  let _ ← keyword "OPTIONS"
  definitionOptions g
  let _ ← keyword "AS"
  discard g.query

/-- The rest of `LOAD DATA`. -/
def loadData (g : Level) : Rule Unit := do
  let _ ← keyword? "LOCAL"
  let _ ← keyword "INPATH"
  let _ ← textLiteral g.dialect
  let _ ← keyword? "OVERWRITE"
  keywords ["INTO", "TABLE"]
  let _ ← objectName g
  if ← keyword? "PARTITION" then discard (parens g.exprs)
  if ← keyword? "INPUTFORMAT" then
    let _ ← g.anyExpr
    let _ ← keyword "SERDE"
    discard g.anyExpr

/-- The rest of `LOAD`: an extension, or rows from a file. The word `DATA` is passed over even where
no rows can be loaded. -/
def load (g : Level) : Rule Unit := do
  if [.generic, .duckdb, .sqlite].contains g.dialect then discard identifier
  else if (← keyword? "DATA") && g.dialect == .hive then loadData g
  else expected "dialect supports `LOAD DATA` or `LOAD extension` to parse `LOAD` statements"

end SqlCompletion.Sql.Rule
