import SqlCompletion.Sql.Grammar.Alteration
import SqlCompletion.Sql.Grammar.Declaration
import SqlCompletion.Sql.Grammar.FreeDefinition
import SqlCompletion.Sql.Grammar.Maintenance
import SqlCompletion.Sql.Grammar.Session
import SqlCompletion.Sql.Grammar.Transfer

/-!
# Statements

A text holds statements with semicolons between them. Completion knows queries, `UPDATE` and
`DELETE`; of the other statements nothing is kept.
-/

namespace SqlCompletion.Sql.Rule

/-! ## Explanations -/

/-- An option in parentheses: its name, and its value if there is one. -/
def utilityOption (g : Level) : Rule Unit := do
  let _ ← identifier
  if !((← isSymbol .comma) || (← isSymbol .rightParen)) then discard g.anyExpr

/-- The format of a plan, with or without an equals sign. -/
def planFormat : Rule Unit := do
  let _ ← symbol? .equal
  if (← oneOf? ["TEXT", "GRAPHVIZ", "JSON"]).isNone then expected "fileformat"

/-- The options of `EXPLAIN`, in parentheses or as words. -/
def explainOptions (g : Level) (parenthesized : Bool) : Rule Unit := do
  if ← onlyIf parenthesized (isSymbol .leftParen) then
    discard (parens (list g.dialect (utilityOption g)))
  else if ← keywords? ["QUERY", "PLAN"] <||> keyword? "ESTIMATE" then return
  else
    let _ ← keyword? "ANALYZE"
    let _ ← keyword? "VERBOSE"
    if ← keyword? "FORMAT" then planFormat

/-- Words that start an explanation. -/
def explanations : List String := ["EXPLAIN", "DESCRIBE", "DESC"]

/-- The rest of an explanation that starts with `k`: a statement or, if there is none, the name of a
table. An explanation cannot be explained. -/
def explain (g : Level) (inner : Rule Statement) (k : String) : Rule Unit := do
  let d := g.dialect
  explainOptions g (k == "EXPLAIN" && [.generic, .duckdb, .postgres].contains d)
  let nested ← isOneOf explanations
  match ← attempt inner with
  | some _ => if nested then throw (.note "Explain must be root of the plan" none)
  | none =>
    let _ ← oneOf? ["EXTENDED", "FORMATTED"]
    if d == .snowflake || d == .clickhouse then discard (keyword? "TABLE")
    discard (objectName g)

/-! ## Statements of which nothing is kept -/

/-- The rest of a statement about transactions, blocks or cursors. -/
def controlStatement? (g : Level) (inner : Rule Statement) (k : String) : Option (Rule Unit) :=
  match k with
  | "BEGIN" => some (beginStatement g.dialect inner)
  | "START" => some startTransaction
  | "COMMIT" => some transactionEnd
  | "END" => some do
    if g.dialect == .mssql then discard (oneOf? ["TRY", "CATCH"])
    transactionEnd
  | "ROLLBACK" => some rollback
  | "SAVEPOINT" => some (discard identifier)
  | "RELEASE" => some releaseSavepoint
  | "IF" => some (if g.dialect == .mssql then openIfStatement g inner else ifStatement g inner)
  | "CASE" => some (caseStatement g inner)
  | "WHILE" => some (whileStatement g inner)
  | "RAISE" => some (raise g)
  | "RAISERROR" => some (raiseError g)
  | "PRINT" => some (discard g.anyExpr)
  | "RETURN" => some (discard (attempt g.anyExpr))
  | "DECLARE" => some (declareStatement g)
  | "OPEN" => some (discard identifier)
  | "FETCH" => some (fetchStatement g)
  | "CLOSE" => some closeStatement
  | _ => none

/-- The rest of a statement about definitions, privileges or the session. -/
def administrativeStatement? (g : Level) (inner : Rule Statement) (k : String) :
    Option (Rule Unit) :=
  match k with
  | "CREATE" => some (create g inner)
  | "ALTER" => some (alter g)
  | "DROP" => some (drop g)
  | "TRUNCATE" => some (truncateTable g)
  | "RENAME" => some (rename g)
  | "COMMENT" =>
    if [.generic, .postgres, .snowflake].contains g.dialect then some (comment g) else none
  | "GRANT" => some (grant g)
  | "REVOKE" => some (revoke g)
  | "DENY" => some (deny g)
  | "SET" => some (setStatement g)
  | "SHOW" => some (showStatement g)
  | "USE" => some (useStatement g)
  | "DISCARD" => some discardStatement
  | _ => none

/-- The rest of a statement that runs something or looks after tables and connections. -/
def maintenanceStatement? (g : Level) (inner : Rule Statement) (k : String) :
    Option (Rule Unit) :=
  let d := g.dialect
  match k with
  | "CALL" => some (callStatement g)
  | "EXECUTE" | "EXEC" => some (execute g)
  | "PREPARE" => some (prepare g inner)
  | "DEALLOCATE" => some deallocate
  | "ASSERT" => some (assertStatement g)
  | "COPY" => some do
    if ← onlyIf (d == .snowflake) (keyword? "INTO") then copyInto g else copy g
  | "UNLOAD" => some (unload g)
  | "EXPORT" => some (exportData g)
  | "LOAD" => some (load g)
  | "ATTACH" => some (attach g)
  | "DETACH" => if d == .generic || d == .duckdb then some detach else none
  | "INSTALL" => if d == .generic || d == .duckdb then some (discard identifier) else none
  | "PRAGMA" => some (pragma g)
  | "ANALYZE" => some (analyze g)
  | "VACUUM" => some (vacuum g)
  | "OPTIMIZE" => if d.columnarClauses then some (optimize g) else none
  | "MSCK" => some (checkPartitions g)
  | "CACHE" => some (cacheTable g)
  | "UNCACHE" => some (uncacheTable g)
  | "KILL" => some (kill d)
  | "FLUSH" => some (flush g)
  | _ => none

/-- The rest of a statement that only some dialects have. -/
def specialStatement? (g : Level) (k : String) : Option (Rule Unit) :=
  match g.dialect, k with
  | .generic, "LISTEN" | .postgres, "LISTEN" => some (discard identifier)
  | .generic, "UNLISTEN" | .postgres, "UNLISTEN" => some unlisten
  | .generic, "NOTIFY" | .postgres, "NOTIFY" => some (notify g.dialect)
  | .snowflake, "LIST" | .snowflake, "LS" | .snowflake, "REMOVE" | .snowflake, "RM" =>
    some (stageFiles g)
  | _, _ => none

/-- The rule for what follows the first word of a statement of which nothing is kept. -/
def otherStatement? (g : Level) (inner : Rule Statement) (k : String) : Option (Rule Unit) :=
  if explanations.contains k then some (explain g inner k)
  else
    controlStatement? g inner k <|> administrativeStatement? g inner k <|>
      maintenanceStatement? g inner k <|> specialStatement? g k

/-! ## Statements -/

/-- A statement that starts with a query. -/
def queryStatement (g : Level) : Rule Statement := do
  return (← g.query).statement

/-- The rule for what follows the first word of a statement. -/
def statementRest? (g : Level) (inner : Rule Statement) (k : String) : Option (Rule Statement) :=
  let changed (change : Rule Change) : Option (Rule Statement) := some ((·.statement) <$> change)
  match k with
  | "INSERT" => changed (insert g)
  | "REPLACE" =>
    if g.dialect == .generic || g.dialect == .mysql then changed (insert g)
    else some (complain "Unsupported statement REPLACE")
  | "UPDATE" => changed (update g)
  | "DELETE" => changed (delete g)
  | "MERGE" => changed (merge g)
  | k => (otherStatement? g inner k).map fun rule => do rule; return .other

/-- Locks tables or releases them, if the words for that are next. -/
def lockTables? (d : Dialect) : Rule Bool := do
  if ← keywords? ["LOCK", "TABLES"] then
    let _ ← list d lockedTable
    return true
  else keywords? ["UNLOCK", "TABLES"]

/-- A statement that starts with the given keyword. -/
def statementAt (g : Level) (inner : Rule Statement) (k : String) : Rule Statement := do
  if ← onlyIf (g.dialect == .mysql) (lockTables? g.dialect) then return .other
  else if g.dialect == .sqlite && k = "REPLACE" then return (← insert g).statement
  else if ["SELECT", "WITH", "VALUES", "FROM"].contains k then queryStatement g
  else
    match statementRest? g inner k with
    | some rest =>
      let _ ← next
      rest
    | none => expected "an SQL statement"

/-- A statement, with the rule for a statement inside it. -/
def statementWith (g : Level) (inner : Rule Statement) : Rule Statement := do
  if ← onlyIf (g.dialect == .snowflake) (createFree? g) then return .other
  match ← token with
  | some (.symbol .leftParen) => queryStatement g
  | some (.word w) => statementAt g inner (w.keyword.getD "")
  | _ => expected "an SQL statement"

/-- A statement that may be nested as deep as said. -/
def statement (d : Dialect) : (depth : Nat) → Rule Statement
  | 0 => throw .tooDeep
  | depth + 1 => statementWith (Level.of d depth) (statement d depth)

/-- How deep statements, queries and expressions may be nested. -/
def nestingLimit : Nat := 50

/-- The statements so far, the last one first, and whether a semicolon has to follow. -/
structure Progress where
  read : List Statement := []
  awaitsSemicolon : Bool := false

/-- One more statement. After a statement without a semicolon the word `END` ends the text. -/
def statementStep (d : Dialect) (p : Progress) : Rule (Option Progress) := do
  let separated ← semicolons
  let mustEnd := p.awaitsSemicolon && !separated
  if (← peek).isNone then return none
  else if mustEnd then
    if ← isKeyword "END" then return none else expected "end of statement"
  else return some { read := (← statement d nestingLimit) :: p.read, awaitsSemicolon := true }

/-- The statements of a text. Each of them counts as one level of nesting. -/
def statements (d : Dialect) : Rule (List Statement) := do
  let p ← iterate (statementStep d) {}
  return p.read.reverse

end SqlCompletion.Sql.Rule
