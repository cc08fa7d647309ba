import SqlCompletion.Sql.Grammar.Definition

/-!
# Maintenance

The statements that run procedures and prepared statements and look after databases, tables and
connections. Nothing of them is kept.
-/

namespace SqlCompletion.Sql.Rule

/-! ## Procedures and prepared statements -/

/-- The rest of `CALL`. -/
def callStatement (g : Level) : Rule Unit := do
  let name ← objectName g
  if ← isSymbol .leftParen then discard (call g name.parts)

/-- The values that a statement is executed with. They end with a parenthesis, or with what starts
the next part of the statement. -/
def executeParameters (g : Level) : Rule Unit := do
  if ← isSymbol .leftParen then
    discard (parens (listBefore g.dialect .rightParen g.anyExpr))
  else
    let ends ← (do return (← peek).isNone) <||> isSymbol .semicolon <||>
      isOneOf ["USING", "OUTPUT", "DEFAULT"]
    if !ends then discard g.exprs

/-- The rest of `EXECUTE`. -/
def execute (g : Level) : Rule Unit := do
  let d := g.dialect
  if !(← onlyIf (d == .bigquery || d == .snowflake) (keyword? "IMMEDIATE")) then
    if ← isSymbol .leftParen then discard (parens (objectName g)) else discard (objectName g)
  executeParameters g
  if ← keyword? "INTO" then discard (list d identifier)
  if ← keyword? "USING" then discard (list d (aliasedExpr g))
  let _ ← keyword? "OUTPUT"
  discard (keyword? "DEFAULT")

/-- The rest of `PREPARE`. -/
def prepare (g : Level) (inner : Rule Statement) : Rule Unit := do
  let _ ← identifier
  if ← isSymbol .leftParen then discard (parens (list g.dialect (dataType g)))
  let _ ← keyword "AS"
  discard inner

/-- The rest of `DEALLOCATE`. -/
def deallocate : Rule Unit := do
  let _ ← keyword? "PREPARE"
  discard identifier

/-- The rest of `ASSERT`. -/
def assertStatement (g : Level) : Rule Unit := do
  let _ ← g.anyExpr
  if ← keyword? "AS" then discard g.anyExpr

/-! ## Databases -/

/-- An option of a database that is attached, and whether another one follows. -/
def attachOption (go : Bool) : Rule (Option Bool) := do
  if !go then return none
  if ← keyword? "READ_ONLY" then discard (oneOf? ["TRUE", "FALSE"])
  else if ← keyword? "TYPE" then discard identifier
  else expected "expected one of: ), READ_ONLY, TYPE"
  if ← symbol? .rightParen then return some false
  else if ← symbol? .comma then return some true
  else expected "expected one of: ')', ','"

/-- The rest of `ATTACH`. -/
def attach (g : Level) : Rule Unit := do
  let _ ← keyword? "DATABASE"
  if g.dialect == .duckdb then
    ifNotExists
    let _ ← identifier
    if ← keyword? "AS" then discard identifier
    if ← symbol? .leftParen then discard (iterate attachOption true)
  else
    let _ ← g.anyExpr
    let _ ← keyword "AS"
    discard identifier

/-- The rest of `DETACH`. -/
def detach : Rule Unit := do
  let _ ← keyword? "DATABASE"
  ifExists
  discard identifier

/-- The value of a pragma. -/
def pragmaValue (d : Dialect) : Rule Unit := do
  let t ← peek
  let l ← literal d
  let plain := l.kind = .number || l.kind = .placeholder ||
    match t.map Lexeme.token with
    | some (.string q _) => q = .single || q = .double
    | some (.word w) => w.quote.isSome
    | _ => false
  if !plain then throw (.expected "number or string or ? placeholder" t)

/-- The rest of `PRAGMA`. -/
def pragma (g : Level) : Rule Unit := do
  let _ ← objectName g
  if ← isSymbol .leftParen then parens (pragmaValue g.dialect)
  else if ← symbol? .equal then pragmaValue g.dialect

/-! ## Tables -/

/-- One of the things that `ANALYZE` is told. -/
def analyzeOption? (g : Level) : Rule (Option Unit) := do
  match ← oneOf? ["PARTITION", "FOR", "CACHE", "NOSCAN", "COMPUTE"] with
  | some "PARTITION" => some <$> discard (parens g.exprs)
  | some "FOR" =>
    let _ ← keyword "COLUMNS"
    some <$> discard (attempt (list g.dialect identifier))
  | some "CACHE" => some <$> discard (keyword "METADATA")
  | some "COMPUTE" => some <$> discard (keyword "STATISTICS")
  | some _ => return some ()
  | none => return none

/-- The rest of `ANALYZE`. -/
def analyze (g : Level) : Rule Unit := do
  let _ ← keyword? "TABLE"
  let _ ← objectName g
  iterate (fun _ => analyzeOption? g) ()

/-- The rest of `VACUUM`. -/
def vacuum (g : Level) : Rule Unit := do
  let _ ← keyword? "FULL"
  let _ ← keywords? ["SORT", "ONLY"]
  let _ ← keywords? ["DELETE", "ONLY"]
  let _ ← keyword? "REINDEX"
  let _ ← keyword? "RECLUSTER"
  if (← attempt (objectName g)).isSome then
    if ← keyword? "TO" then
      let _ ← literal g.dialect
      discard (keyword "PERCENT")
    discard (keyword? "BOOST")

/-- The rest of `OPTIMIZE`. -/
def optimize (g : Level) : Rule Unit := do
  let _ ← keyword "TABLE"
  let _ ← objectName g
  onCluster?
  if ← keyword? "PARTITION" then
    if ← keyword? "ID" then discard identifier else discard g.anyExpr
  let _ ← keyword? "FINAL"
  if ← keyword? "DEDUPLICATE" then
    if ← keyword? "BY" then discard g.anyExpr

/-- The rest of `MSCK`. -/
def checkPartitions (g : Level) : Rule Unit := do
  let _ ← keyword? "REPAIR"
  let _ ← keyword "TABLE"
  let _ ← objectName g
  discard (attempt do
    let _ ← oneOf? ["ADD", "DROP", "SYNC"]
    keyword "PARTITIONS")

/-- The options and the query of a table that is cached. -/
def cachedQuery (g : Level) : Rule Unit := do
  let _ ← options? g "OPTIONS"
  match ← token with
  | none => return
  | some (.word w) =>
    if w.isKeyword "AS" then discard next
    discard g.query
  | _ => expected "a QUERY statement"

/-- The rest of `CACHE`. -/
def cacheTable (g : Level) : Rule Unit := do
  if ← keyword? "TABLE" then
    let _ ← objectName g
    cachedQuery g
  else
    let start ← get
    let _ ← objectName g
    if ← keyword? "TABLE" then
      let _ ← objectName g
      cachedQuery g
    else
      if (← peek).isNone then stepBack start
      expected "a `TABLE` keyword"

/-- The rest of `UNCACHE`. -/
def uncacheTable (g : Level) : Rule Unit := do
  let _ ← keyword "TABLE"
  ifExists
  discard (objectName g)

/-! ## Connections -/

/-- The rest of `KILL`. -/
def kill (d : Dialect) : Rule Unit := do
  let kind ← oneOf? ["CONNECTION", "QUERY", "MUTATION"]
  let _ ← wholeNumber
  if kind == some "MUTATION" && !d.columnarClauses then
    expected "Unsupported type for KILL, allowed: CONNECTION | QUERY"

/-- What can be flushed, tables and relay logs apart. -/
def flushedObjects : List (List String) :=
  [["BINARY", "LOGS"], ["ENGINE", "LOGS"], ["ERROR", "LOGS"], ["GENERAL", "LOGS"], ["HOSTS"],
    ["PRIVILEGES"], ["OPTIMIZER_COSTS"], ["SLOW", "LOGS"], ["STATUS"], ["USER_RESOURCES"],
    ["LOGS"]]

/-- Tables that are flushed, and what is done with them. All words that follow are taken, and what
ends them too. -/
def flushedTables (g : Level) : Rule Unit :=
  discard (iterate (fun go => do
    if !go then return none
    match ← token with
    | some (.word w) =>
      if w.keyword.isNone then discard (list g.dialect (objectName g)) else discard next
      return some true
    | _ =>
      let _ ← next
      return some false) true)

/-- The rest of `FLUSH`. -/
def flush (g : Level) : Rule Unit := do
  if !(g.dialect == .generic || g.dialect == .mysql) then complain "Unsupported statement FLUSH"
  let _ ← oneOf? ["NO_WRITE_TO_BINLOG", "LOCAL"]
  if ← phrase? flushedObjects then return
  else if ← keywords? ["RELAY", "LOGS"] then
    if ← keywords? ["FOR", "CHANNEL"] then discard (objectName g)
  else if ← keyword? "TABLES" then flushedTables g
  else
    expected ("BINARY LOGS, ENGINE LOGS, ERROR LOGS, GENERAL LOGS, HOSTS, LOGS, PRIVILEGES, " ++
      "OPTIMIZER_COSTS,RELAY LOGS [FOR CHANNEL channel], SLOW LOGS, STATUS, USER_RESOURCES")

/-- The rest of `UNLISTEN`. -/
def unlisten : Rule Unit := do
  if ← symbol? .star then return
  else if ((← peek).bind identOf?).isSome then discard next
  else expected "wildcard or identifier"

/-- The rest of `NOTIFY`. -/
def notify (d : Dialect) : Rule Unit := do
  let _ ← identifier
  if ← symbol? .comma then discard (textLiteral d)

end SqlCompletion.Sql.Rule
