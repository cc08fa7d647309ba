import SqlCompletion.Sql.Grammar.Definition

/-!
# Alterations

The statements that change, rename, empty and remove what is defined. Nothing of them is kept.
-/

namespace SqlCompletion.Sql.Rule

/-! ## Tables -/

/-- What becomes of objects that depend on a removed one, if that is said. -/
def dropBehavior? : Rule Unit :=
  discard (oneOf? ["CASCADE", "RESTRICT"])

/-- Where a new column goes, if that is said. -/
def columnPosition? (d : Dialect) : Rule Unit := do
  if d == .generic || d == .mysql then
    if ← keyword? "FIRST" then return
    else if ← keyword? "AFTER" then discard identifier

/-- A projection that is kept with a table: its name and a query without tables. -/
def addProjection (g : Level) : Rule Unit := do
  ifNotExists
  let _ ← identifier
  parens do
    let _ ← keyword "SELECT"
    let _ ← selectItems g
    let _ ← groupBy? g
    discard (orderBy? g)

/-- A projection of which the values are computed or removed, in one partition if that is given. -/
def refreshProjection : Rule Unit := do
  ifExists
  let _ ← identifier
  if ← keywords? ["IN", "PARTITION"] then discard identifier

/-- The rest of `ADD`. -/
def addToTable (g : Level) : Rule Unit := do
  let d := g.dialect
  if ← tableConstraint? g then discard (keywords? ["NOT", "VALID"])
  else if ← onlyIf d.columnarClauses (keyword? "PROJECTION") then addProjection g
  else
    ifNotExists
    let partitions ← iterate (fun _ => do
      if ← keyword? "PARTITION" then
        let _ ← parens g.exprs
        return some true
      else return none) false
    if !partitions then
      let _ ← keyword? "COLUMN"
      if [.generic, .bigquery, .duckdb, .postgres].contains d then ifNotExists
      let _ ← columnDefinition g
      columnPosition? d

/-- The rest of `RENAME`. -/
def renameInTable (g : Level) : Rule Unit := do
  let names : Rule Unit := do
    let _ ← identifier
    let _ ← keyword "TO"
    discard identifier
  if ← onlyIf (g.dialect == .postgres) (keyword? "CONSTRAINT") then names
  else if (← oneOf? ["TO", "AS"]).isSome then discard (objectName g)
  else
    let _ ← keyword? "COLUMN"
    names

/-- The rest of `DROP`. -/
def dropFromTable (g : Level) : Rule Unit := do
  let d := g.dialect
  if ← keywords? ["IF", "EXISTS", "PARTITION"] <||> keyword? "PARTITION" then
    discard (parens g.exprs)
  else if ← keyword? "CONSTRAINT" then
    ifExists
    let _ ← identifier
    dropBehavior?
  else if ← keywords? ["PRIMARY", "KEY"] then dropBehavior?
  else if ← keywords? ["FOREIGN", "KEY"] then
    let _ ← identifier
    dropBehavior?
  else if ← keyword? "INDEX" then discard identifier
  else if ← meaningful? d.columnarClauses ["PROJECTION"] then
    ifExists
    discard identifier
  else if ← keywords? ["CLUSTERING", "KEY"] then return
  else
    let _ ← keyword? "COLUMN"
    ifExists
    if d == .mysql || d == .snowflake then discard (list d identifier) else discard identifier
    dropBehavior?

/-- The type that a column gets, and how its values are converted. -/
def newColumnType (g : Level) : Rule Unit := do
  let _ ← dataType g
  if ← onlyIf (g.dialect == .postgres) (keyword? "USING") then discard g.anyExpr

/-- The rest of `ALTER` for a column. -/
def alterColumn (g : Level) : Rule Unit := do
  let d := g.dialect
  let _ ← keyword? "COLUMN"
  let _ ← identifier
  if ← phrase? [["SET", "NOT", "NULL"], ["DROP", "NOT", "NULL"], ["DROP", "DEFAULT"]] then return
  else if ← keywords? ["SET", "DEFAULT"] then discard g.anyExpr
  else if ← keywords? ["SET", "DATA", "TYPE"] <||> keyword? "TYPE" then newColumnType g
  else if ← keywords? ["ADD", "GENERATED"] then
    let _ ← keyword? "ALWAYS" <||> keywords? ["BY", "DEFAULT"]
    keywords ["AS", "IDENTITY"]
    if ← isSymbol .leftParen then parens (sequenceOptions d)
  else if d == .postgres then
    expected ("SET/DROP NOT NULL, SET DEFAULT, SET DATA TYPE, or ADD GENERATED after " ++
      "ALTER COLUMN")
  else expected "SET/DROP NOT NULL, SET DEFAULT, or SET DATA TYPE after ALTER COLUMN"

/-- The rest of `CHANGE` or `MODIFY`; only the first gives the column a new name. -/
def redefineColumn (g : Level) (renames : Bool) : Rule Unit := do
  let _ ← keyword? "COLUMN"
  let _ ← identifier
  if renames then discard identifier
  let _ ← dataType g
  columnOptions g
  columnPosition? g.dialect

/-- The rest of `ENABLE` or `DISABLE`. -/
def switchInTable (enable : Bool) : Rule Unit := do
  let kinds := [["RULE"], ["TRIGGER"]]
  let always := [["ALWAYS", "RULE"], ["ALWAYS", "TRIGGER"], ["REPLICA", "RULE"],
    ["REPLICA", "TRIGGER"]]
  if ← keywords? ["ROW", "LEVEL", "SECURITY"] then return
  else if ← phrase? (if enable then always ++ kinds else kinds) then discard identifier
  else if enable then
    expected "ALWAYS, REPLICA, ROW LEVEL SECURITY, RULE, or TRIGGER after ENABLE"
  else expected "ROW LEVEL SECURITY, RULE, or TRIGGER after DISABLE"

/-- A partition of a table, or a part of one. -/
def partOrPartition (g : Level) : Rule Unit := do
  let _ ← oneOf ["PART", "PARTITION"]
  discard g.anyExpr

/-- The rule for a change of the partitions of a table, after its first word. -/
def partitionChange? (g : Level) (k : String) : Option (Rule Unit) :=
  if !g.dialect.columnarClauses then none
  else
    match k with
    | "ATTACH" | "DETACH" => some (partOrPartition g)
    | "FREEZE" | "UNFREEZE" => some do
      partOrPartition g
      if ← keyword? "WITH" then
        let _ ← keyword "NAME"
        discard identifier
    | _ => none

/-- What identifies the rows of a table to its copies. -/
def replicaIdentity : Rule Unit := do
  if (← oneOf? ["NONE", "FULL", "DEFAULT"]).isSome then return
  else if ← keywords? ["USING", "INDEX"] then discard identifier
  else expected "NONE, FULL, DEFAULT, or USING INDEX index_name after REPLICA IDENTITY"

/-- The rule for a change of a table that starts with the given keyword. -/
def tableChange? (g : Level) (k : String) : Option (Rule Unit) :=
  match k with
  | "ADD" => some (addToTable g)
  | "RENAME" => some (renameInTable g)
  | "DISABLE" => some (switchInTable false)
  | "ENABLE" => some (switchInTable true)
  | "DROP" => some (dropFromTable g)
  | "PARTITION" => some do
    let _ ← parens g.exprs
    keywords ["RENAME", "TO", "PARTITION"]
    discard (parens g.exprs)
  | "CHANGE" => some (redefineColumn g true)
  | "MODIFY" => some (redefineColumn g false)
  | "ALTER" => some (alterColumn g)
  | "SWAP" => some do
    let _ ← keyword "WITH"
    discard (objectName g)
  | "AUTO_INCREMENT" => some do
    let _ ← symbol? .equal
    numberLiteral g.dialect
  | k => partitionChange? g k <|> changeManner? k

/-- A change of a table. -/
def tableChange (g : Level) : Rule Unit := do
  let d := g.dialect
  match tableChange? g ((← peekKeyword?).getD "") with
  | some change =>
    let _ ← next
    change
  | none =>
    if ← meaningful? d.columnarClauses ["CLEAR", "PROJECTION"] <||>
        meaningful? d.columnarClauses ["MATERIALIZE", "PROJECTION"] then
      refreshProjection
    else if ← onlyIf (d == .generic || d == .postgres) (keywords? ["OWNER", "TO"]) then owner
    else if ← keywords? ["CLUSTER", "BY"] then discard (parens g.exprs)
    else if ← keywords? ["SUSPEND", "RECLUSTER"] <||> keywords? ["RESUME", "RECLUSTER"] then return
    else if ← keywords? ["REPLICA", "IDENTITY"] then replicaIdentity
    else if ← keywords? ["VALIDATE", "CONSTRAINT"] then discard identifier
    else if ← keywords? ["SET", "TBLPROPERTIES"] then definitionOptions g
    else if ← options? g "SET" then return
    else
      expected ("ADD, RENAME, PARTITION, SWAP, DROP, REPLICA IDENTITY, SET, or " ++
        "SET TBLPROPERTIES after ALTER TABLE")

/-- The rest of `ALTER TABLE`. -/
def alterTable (g : Level) : Rule Unit := do
  ifExists
  let _ ← keyword? "ONLY"
  let _ ← objectName g
  onCluster?
  let _ ← list g.dialect (tableChange g)
  if ← keyword? "LOCATION" <||> keywords? ["SET", "LOCATION"] then discard identifier

/-! ## Other objects -/

/-- The rest of `ALTER VIEW`. -/
def alterView (g : Level) : Rule Unit := do
  let _ ← objectName g
  let _ ← columnList? g.dialect false identifier
  let _ ← options? g "WITH"
  let _ ← keyword "AS"
  discard g.query

/-- The rest of `ALTER TYPE`. -/
def alterType (g : Level) : Rule Unit := do
  let _ ← objectName g
  if ← keywords? ["RENAME", "TO"] then discard identifier
  else if ← keywords? ["ADD", "VALUE"] then
    ifNotExists
    let _ ← identifier
    if (← oneOf? ["BEFORE", "AFTER"]).isSome then discard identifier
  else if ← keywords? ["RENAME", "VALUE"] then
    let _ ← identifier
    let _ ← keyword "TO"
    discard identifier
  else expected "\x7bRENAME TO | \x7b RENAME | ADD \x7d VALUE\x7d"

/-- The rest of `ALTER INDEX`. -/
def alterIndex (g : Level) : Rule Unit := do
  let _ ← objectName g
  if !(← keyword? "RENAME") then expected "RENAME after ALTER INDEX"
  if !(← keyword? "TO") then expected "TO after RENAME"
  discard (objectName g)

/-- The rest of `ALTER SCHEMA`. -/
def alterSchema (g : Level) : Rule Unit := do
  ifExists
  let _ ← objectName g
  if ← keywords? ["SET", "DEFAULT", "COLLATE"] then discard g.anyExpr
  else if ← onlyIf (startWith ["SET", "OPTIONS"] (← get)) (keyword? "SET") then
    discard (options? g "OPTIONS")
  else if ← keywords? ["ADD", "REPLICA"] then
    let _ ← identifier
    discard (options? g "OPTIONS")
  else if ← keywords? ["DROP", "REPLICA"] then discard identifier
  else if ← keyword? "RENAME" then
    let _ ← keyword "TO"
    discard (objectName g)
  else if ← keywords? ["OWNER", "TO"] then owner
  else expected "ALTER SCHEMA operation"

/-- The rest of `ALTER POLICY`. -/
def alterPolicy (g : Level) : Rule Unit := do
  let _ ← identifier
  let _ ← keyword "ON"
  let _ ← objectName g
  if ← keyword? "RENAME" then
    let _ ← keyword "TO"
    discard identifier
  else
    if ← keyword? "TO" then discard (list g.dialect owner)
    policyConditions g

/-- The rest of `ALTER`. -/
def alter (g : Level) : Rule Unit := do
  if ← onlyIf (g.dialect == .snowflake) (keyword? "SESSION") then alterSession
  else
    match ← oneOf ["VIEW", "TYPE", "TABLE", "INDEX", "ROLE", "POLICY", "CONNECTOR", "ICEBERG",
      "SCHEMA"] with
    | "VIEW" => alterView g
    | "TYPE" => alterType g
    | "TABLE" => alterTable g
    | "INDEX" => alterIndex g
    | "ROLE" => alterRole g
    | "POLICY" => alterPolicy g
    | "CONNECTOR" => alterConnector g
    | "ICEBERG" =>
      let _ ← keyword "TABLE"
      alterTable g
    | _ => alterSchema g

/-! ## Removal -/

/-- What can be dropped, with a list of names after it. -/
def droppedObjects : List String :=
  ["TABLE", "VIEW", "INDEX", "ROLE", "SCHEMA", "DATABASE", "SEQUENCE", "STAGE", "TYPE", "USER",
    "STREAM"]

/-- The names after `DROP` and a kind of object. -/
def dropNames (g : Level) (kind : String) : Rule Unit := do
  ifExists
  let _ ← list g.dialect (objectName g)
  let place := (← peek).map (·.range.start)
  let cascade ← keyword? "CASCADE"
  let restrict ← keyword? "RESTRICT"
  let purge ← keyword? "PURGE"
  if cascade && restrict then
    throw (.note "Cannot specify both CASCADE and RESTRICT in DROP" place)
  if kind = "ROLE" && (cascade || restrict || purge) then
    throw (.note "Cannot specify CASCADE, RESTRICT, or PURGE in DROP ROLE" place)
  if ← keyword? "ON" then discard (objectName g)

/-- The rule for dropping an object that starts with the given keyword. -/
def dropObject? (g : Level) (duration : Duration) (k : String) : Option (Rule Unit) :=
  let d := g.dialect
  match k with
  | "FUNCTION" | "PROCEDURE" => some do
    ifExists
    let _ ← list d (functionSignature g)
    dropBehavior?
  | "POLICY" => some do
    ifExists
    let _ ← identifier
    let _ ← keyword "ON"
    let _ ← objectName g
    dropBehavior?
  | "CONNECTOR" => some do
    ifExists
    discard identifier
  | "DOMAIN" => some do
    ifExists
    let _ ← objectName g
    dropBehavior?
  | "SECRET" => some do
    ifExists
    let _ ← identifier
    if ← keyword? "FROM" then discard anyName
    duration.check
  | "TRIGGER" =>
    if triggers d then some do
      ifExists
      let _ ← objectName g
      if ← keyword? "ON" then discard (objectName g)
      dropBehavior?
    else none
  | "EXTENSION" => some do
    ifExists
    let _ ← list d identifier
    dropBehavior?
  | k => if droppedObjects.contains k then some (dropNames g k) else none

/-- The rest of `DROP`. -/
def drop (g : Level) : Rule Unit := do
  let d := g.dialect
  let temporary ← onlyIf ([.generic, .duckdb, .mysql].contains d) (keyword? "TEMPORARY")
  let persistent ← onlyIf (d == .duckdb) (keyword? "PERSISTENT")
  let k := (← peekKeyword?).getD ""
  match dropObject? g { temporary, persistent } k with
  | some rest =>
    let _ ← next
    rest
  | none =>
    if ← keywords? ["MATERIALIZED", "VIEW"] then dropNames g "VIEW"
    else if k = "TRIGGER" then expected "an object type after DROP"
    else
      expected ("CONNECTOR, DATABASE, EXTENSION, FUNCTION, INDEX, POLICY, PROCEDURE, ROLE, " ++
        "SCHEMA, SECRET, SEQUENCE, STAGE, TABLE, TRIGGER, TYPE, VIEW, " ++
        "MATERIALIZED VIEW or USER after DROP")

/-- The rest of `TRUNCATE`. -/
def truncateTable (g : Level) : Rule Unit := do
  let d := g.dialect
  let _ ← keyword? "TABLE"
  let _ ← keyword? "ONLY"
  let _ ← list d (objectName g)
  if ← keyword? "PARTITION" then discard (parens g.exprs)
  if d == .generic || d == .postgres then
    let _ ← keywords? ["RESTART", "IDENTITY"] <||> keywords? ["CONTINUE", "IDENTITY"]
    dropBehavior?
  onCluster?

/-- The rest of `RENAME`. -/
def rename (g : Level) : Rule Unit := do
  if !(← keyword? "TABLE") then expected "KEYWORD `TABLE` after RENAME"
  discard (list g.dialect do
    let _ ← objectName g
    let _ ← keyword "TO"
    discard (objectName g))

/-- What comments can be given to. -/
def commentedObjects : List String :=
  ["COLUMN", "DATABASE", "DOMAIN", "EXTENSION", "FUNCTION", "INDEX", "MATERIALIZED", "PROCEDURE",
    "ROLE", "SCHEMA", "SEQUENCE", "TABLE", "TYPE", "USER", "VIEW"]

/-- The rest of `COMMENT`. -/
def comment (g : Level) : Rule Unit := do
  ifExists
  let _ ← keyword "ON"
  match ← oneOf? commentedObjects with
  | some kind => if kind = "MATERIALIZED" then discard (keyword "VIEW")
  | none => expected "comment object_type"
  let _ ← objectName g
  let _ ← keyword "IS"
  if !(← keyword? "NULL") then discard (textLiteral g.dialect)

end SqlCompletion.Sql.Rule
