import SqlCompletion.Sql.Grammar.SelectItem

/-!
# Changes to tables

`INSERT`, `UPDATE`, `DELETE` and `MERGE`, each after its first word. A change may stand in place of
a query, and so has an extent.
-/

namespace SqlCompletion.Sql

/-- A change to a table. -/
structure Change where
  /-- How far the change extends without its first word. -/
  extent : Range := .none
  /-- The change as completion sees it. -/
  statement : Statement := .other

namespace Rule

/-- What happens to rows that are there already. -/
def conflictPolicy? : Rule Unit := do
  if !(← keyword? "REPLACE") then
    if isAhead (← tokenAt 1) ["REPLACE", "ROLLBACK", "ABORT", "FAIL", "IGNORE"] then
      if ← keyword? "OR" then discard next

/-- A column, or several in parentheses, and the value it is set to. -/
def assignment (g : Level) : Rule Range := do
  let columns ←
    if ← isSymbol .leftParen then parens (list g.dialect (objectName g))
    else pure [← objectName g]
  let _ ← symbol .equal
  return (Range.coverAll (columns.map (·.extent))).cover (← g.anyExpr).extent

/-- Assignments with commas between them. -/
def assignments (g : Level) : Rule Range := do
  return Range.coverAll (← list g.dialect (assignment g))

/-- The filter of a statement. -/
def where? (g : Level) : Rule (Option Expr) :=
  after? "WHERE" g.anyExpr

/-! ## INSERT -/

/-- What follows `ON` after the rows of an INSERT. -/
def onConflict (g : Level) : Rule Range := do
  let d := g.dialect
  if ← keyword? "CONFLICT" then
    let target ←
      if ← keywords? ["ON", "CONSTRAINT"] then (·.extent) <$> objectName g
      else if ← isSymbol .leftParen then identsExtent <$> columnList d identifier
      else pure .none
    let _ ← keyword "DO"
    if ← keyword? "NOTHING" then return target
    else
      keywords ["UPDATE", "SET"]
      let changes ← assignments g
      return Range.coverAll [target, changes, Expr.extentAll (← where? g).toList]
  else
    keywords ["DUPLICATE", "KEY", "UPDATE"]
    assignments g

/-- The columns of an INSERT. -/
def insertColumns (g : Level) : Rule Range := do
  let d := g.dialect
  let rowsFollow := (← isSymbol .leftParen) && isAhead (← tokenAt 1) ["SELECT"]
  if rowsFollow then return .none
  else
    let columns ← columnList? d (d == .mysql) identifier
    let partitions ← after? "PARTITION" (parens g.exprs)
    let more ← if d == .hive then columnList? d false identifier else pure []
    return (identsExtent (columns ++ more)).cover (Expr.extentAll (partitions.getD []))

/-- The rows of an INSERT. -/
def insertRows (g : Level) : Rule Range := do
  if isAhead (← token) ["FORMAT", "SETTINGS"] then return .none
  else if ← onlyIf (g.dialect == .mysql) (keyword? "SET") then assignments g
  else return (← g.query).extent

/-- The table that rows are inserted into, or a function that gives one. -/
def insertTarget (g : Level) : Rule Range := do
  if ← onlyIf (g.dialect == .clickhouse) (keyword? "FUNCTION") then
    return (← call g (← objectName g).parts).extent
  else return (← objectName g).extent

/-- The format of the rows, and rows in it. -/
def inputFormat? (g : Level) : Rule Unit := do
  if ← keyword? "FORMAT" then
    let _ ← identifier
    discard (attempt g.exprs)

/-- The words between `INSERT` and the table. -/
def insertModifiers (d : Dialect) : Rule Unit := do
  conflictPolicy?
  if d == .generic || d == .mysql then
    let _ ← oneOf? ["LOW_PRIORITY", "DELAYED", "HIGH_PRIORITY"]
    discard (keyword? "IGNORE")
  ["OVERWRITE", "INTO", "LOCAL"].forM fun k => discard (keyword? k)

/-- An INSERT into a table. -/
def insertIntoTable (g : Level) : Rule Range := do
  let d := g.dialect
  let _ ← keyword? "TABLE"
  let target ← insertTarget g
  let aliasName ← if d == .postgres then after? "AS" identifier else pure none
  let rows ←
    if ← keywords? ["DEFAULT", "VALUES"] then pure .none
    else
      let columns ← insertColumns g
      pure (columns.cover (← insertRows g))
  if d == .clickhouse then
    let _ ← settings? g
    inputFormat? g
  if ← onlyIf (d == .generic || d == .mysql) (keyword? "AS") then
    let _ ← objectName g
    discard (columnList? d false identifier)
  let conflict ← after? "ON" (onConflict g)
  return Range.coverAll [target, identsExtent aliasName.toList, rows, conflict.getD .none,
    ← returning? g]

/-- The formats in which rows are stored. -/
def fileFormats : List String :=
  ["AVRO", "JSONFILE", "ORC", "PARQUET", "RCFILE", "SEQUENCEFILE", "TEXTFILE"]

/-- A format in which rows are stored. -/
def fileFormat : Rule Unit := do
  if (← oneOf? fileFormats).isNone then rejectNext "fileformat"

/-- An INSERT. -/
def insert (g : Level) : Rule Change := do
  insertModifiers g.dialect
  if ← keyword? "DIRECTORY" then
    let _ ← textLiteral g.dialect
    if ← keywords? ["STORED", "AS"] then fileFormat
    let _ ← g.query
    return {}
  else return { extent := ← insertIntoTable g }

/-! ## UPDATE and DELETE -/

/-- An UPDATE. -/
def update (g : Level) : Rule Change := do
  conflictPolicy?
  let table ← joinChain g
  let before ← after? "FROM" (fromTables g)
  let _ ← keyword "SET"
  let changes ← assignments g
  let after ← if before.isNone then after? "FROM" (fromTables g) else pure none
  let filter ← where? g
  let returned ← returning? g
  let _ ← clause? g "LIMIT"
  let tables := table :: before.getD [] ++ after.getD []
  return {
    extent := Range.coverAll
      (changes :: returned :: Expr.extentAll filter.toList :: tables.map (·.extent))
    statement := .update table.relation.location (filter.map Expr.toExpression) }

/-- The place of the tables that rows are deleted from. -/
def deleteTarget : List JoinChain → Range
  | [] => .none
  | first :: rest => rest.foldl (fun r c => r.union c.relation.location) first.relation.location

/-- A DELETE. -/
def delete (g : Level) : Rule Change := do
  let d := g.dialect
  let names ←
    if !(← keyword? "FROM") && !d.deleteWithoutFrom then
      let names ← list d (objectName g)
      let _ ← keyword "FROM"
      pure names
    else pure []
  let tables ← list d (joinChain g)
  let used ← after? "USING" (list d (joinChain g))
  let filter ← where? g
  let returned ← returning? g
  let order ← afterAll? ["ORDER", "BY"] (orderItems g)
  let limit ← if ← keyword? "LIMIT" then
      if ← keyword? "ALL" then pure none else some <$> g.anyExpr
    else pure none
  return {
    extent := Range.coverAll (returned :: order.getD .none ::
      Expr.extentAll (filter.toList ++ limit.toList) ::
      (names.map (·.extent) ++ (tables ++ used.getD []).map (·.extent)))
    statement := .delete (deleteTarget tables) (filter.map Expr.toExpression) }

/-! ## MERGE -/

/-- Which rows a branch is for, as it is written in messages. -/
def mergeRows : Rule String := do
  let missing ← keyword? "NOT"
  let _ ← keyword "MATCHED"
  if !missing then return "MATCHED"
  else if ← keywords? ["BY", "SOURCE"] then return "NOT MATCHED BY SOURCE"
  else if ← keywords? ["BY", "TARGET"] then return "NOT MATCHED BY TARGET"
  else return "NOT MATCHED"

/-- What a branch does to its rows: rows of the target are changed, and others are inserted. -/
def mergeAction (g : Level) (rows : String) : Rule Unit := do
  let d := g.dialect
  let present := rows == "MATCHED" || rows == "NOT MATCHED BY SOURCE"
  match ← oneOf? ["UPDATE", "INSERT", "DELETE"] with
  | some k =>
    if present == (k == "INSERT") then
      throw (.note (k ++ " is not allowed in a " ++ rows ++ " merge clause") none)
    if k == "UPDATE" then
      let _ ← keyword "SET"
      discard (assignments g)
    if k == "INSERT" then
      let _ ← columnList? d (d == .mysql) identifier
      if !(← onlyIf (d == .generic || d == .bigquery) (keyword? "ROW")) then
        let _ ← keyword "VALUES"
        discard (valueRows g)
  | none => throw (.note "expected UPDATE, DELETE or INSERT in merge clause" none)

/-- One branch of a MERGE. -/
def mergeBranch? (g : Level) : Rule (Option Unit) := do
  if ← keyword? "WHEN" then
    let rows ← mergeRows
    let _ ← after? "AND" g.anyExpr
    let _ ← keyword "THEN"
    mergeAction g rows
    return some ()
  else return none

/-- A MERGE. It has no extent. -/
def merge (g : Level) : Rule Change := do
  let _ ← keyword? "INTO"
  let _ ← relation g
  let _ ← keyword "USING"
  let _ ← relation g
  let _ ← keyword "ON"
  let _ ← g.anyExpr
  iterate (fun _ => mergeBranch? g) ()
  match ← oneOf? ["OUTPUT", "RETURNING"] with
  | some k =>
    let _ ← itemList g
    if k = "OUTPUT" then discard (into? g)
  | none => pure ()
  return {}

end Rule

end SqlCompletion.Sql
