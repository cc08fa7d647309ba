import SqlCompletion.Sql.Grammar.Column
import SqlCompletion.Sql.Grammar.Pipe

/-!
# Queries

A query is made of selects with set operators between them, named queries before them, and an order
and limits after them. What completion sees of it is its first select.
-/

namespace SqlCompletion.Sql

/-- The selects of a query, without what stands before and after them. -/
structure Body where
  extent : Range
  statement : Statement

namespace Rule

/-! ## Parts of a select -/

/-- The number of rows after `TOP`. -/
def top : Rule Unit → Rule Unit := fun quantity => do
  if ← isSymbol .leftParen then parens quantity else discard wholeNumber
  let _ ← keyword? "PERCENT"
  discard (keywords? ["WITH", "TIES"])

/-- The words `ALL`, `DISTINCT` or `DISTINCT ON (..)`; whether rows are distinct. -/
def distinct (g : Level) : Rule Bool := do
  let place := (← peek).map (·.range.start)
  let all ← keyword? "ALL"
  if !(← keyword? "DISTINCT") then return false
  if all then throw (.note "Cannot specify both ALL and DISTINCT" place)
  if ← keyword? "ON" then discard (parens (listUnless g.dialect .rightParen g.anyExpr))
  return true

/-- The words before the items that say what a row is. -/
def rowMode (d : Dialect) : Rule Unit := do
  if d == .bigquery then
    if !(← keywords? ["DISTINCT", "AS", "VALUE"] <||> keywords? ["DISTINCT", "AS", "STRUCT"] <||>
        keywords? ["AS", "VALUE"] <||> keywords? ["ALL", "AS", "VALUE"] <||>
        keywords? ["AS", "STRUCT"] <||> keywords? ["ALL", "AS", "STRUCT"]) then
      if ← keyword? "AS" then expected "VALUE or STRUCT"

/-- What stands between `SELECT` and the items; whether rows are distinct. -/
def selectModifiers (g : Level) : Rule Bool := do
  let top := top (discard g.anyExpr)
  rowMode g.dialect
  if ← onlyIf g.dialect.topBeforeDistinct (keyword? "TOP") then top
  let isDistinct ← distinct g
  if ← onlyIf (!g.dialect.topBeforeDistinct) (keyword? "TOP") then top
  return isDistinct

/-- The items of a select. There may be none directly before `FROM`. -/
def selectItems (g : Level) : Rule (List Item) := do
  if g.dialect.emptyItems && (← isKeyword "FROM") then return [] else itemList g

/-- One of the tables that are made of columns. -/
def lateralView? (g : Level) : Rule (Option Range) := do
  if ← keywords? ["LATERAL", "VIEW"] then
    let _ ← keyword? "OUTER"
    let e ← g.anyExpr
    let name ← objectName g
    let columns ← list g.dialect
      (alias? (unlessReserved ["WHERE", "GROUP", "CLUSTER", "HAVING", "LATERAL"]))
    return some (Range.coverAll [e.extent, name.extent, identsExtent (columns.filterMap id)])
  else return none

/-- The tables that are made of columns. -/
def lateralViews (g : Level) : Rule Range :=
  iterate (fun extent => do
    match ← lateralView? g with
    | some e => return some (extent.cover e)
    | none => return none) .none

/-- The condition of a hierarchy. -/
def hierarchyRoots (g : Level) : Rule (List Expr) := do
  keywords ["START", "WITH"]
  return [← g.anyExpr]

/-- A hierarchy of rows. -/
def hierarchy? (g : Level) : Rule Range := do
  let links : Rule (List Expr) := (g.within .links).exprs
  if g.dialect.hierarchies && isAhead (← token) ["START", "CONNECT"] then
    if ← keywords? ["CONNECT", "BY"] then
      return Expr.extentAll ((← links) ++ (← hierarchyRoots g))
    else
      let roots ← hierarchyRoots g
      keywords ["CONNECT", "BY"]
      return Expr.extentAll (roots ++ (← links))
  else return .none

/-! ## Groups -/

/-- Expressions in parentheses, or one without them where that is allowed. -/
def groupingSet (g : Level) (single : Bool) : Rule (List Expr) := do
  if single && !(← isSymbol .leftParen) then return [← g.anyExpr]
  else parens (listUnless g.dialect .rightParen g.anyExpr)

/-- Sets of groups in parentheses. -/
def groupingSets (g : Level) (single : Bool) : Rule Range := do
  let sets ← parens (list g.dialect (groupingSet g single))
  return Range.coverAll (sets.map Expr.extentAll)

/-- One of the expressions that rows are grouped by. -/
def groupItem (g : Level) : Rule Range := do
  if g.dialect.groupingSets then
    if ← keywords? ["GROUPING", "SETS"] then groupingSets g false
    else if (← oneOf? ["CUBE", "ROLLUP"]).isSome then groupingSets g true
    else if (← tokenAt 0) == some (.symbol .leftParen) &&
        (← tokenAt 1) == some (.symbol .rightParen) then
      let _ ← next
      let _ ← next
      return .none
    else return (← g.anyExpr).extent
  else return (← g.anyExpr).extent

/-- What may follow the groups. -/
def groupModifiers (g : Level) : Rule Unit := do
  if g.dialect.groupModifiers then
    iterate (fun _ => do
      if ← keyword? "WITH" then
        let _ ← oneOf ["ROLLUP", "CUBE", "TOTALS"]
        return some ()
      else return none) ()
  if ← keywords? ["GROUPING", "SETS"] then discard (groupingSets g true)

/-- The expressions that rows are grouped by. -/
def groupBy? (g : Level) : Rule Range := do
  if ← keywords? ["GROUP", "BY"] then
    let extent ←
      if ← keyword? "ALL" then pure .none
      else Range.coverAll <$> list g.dialect (groupItem g)
    groupModifiers g
    return extent
  else return .none

/-! ## Windows -/

/-- A window with its name. -/
def namedWindow (g : Level) : Rule Range := do
  let name ← identifier
  let _ ← keyword "AS"
  if ← symbol? .leftParen then windowSpec g
  else if g.dialect == .generic || g.dialect == .bigquery then discard identifier
  else expected "("
  return name.extent

/-- Windows with their names. -/
def windows? (g : Level) : Rule Range := do
  if ← keyword? "WINDOW" then return Range.coverAll (← list g.dialect (namedWindow g))
  else return .none

/-- Named windows and the filter on windows, in any order. -/
def windowClauses (g : Level) : Rule Range := do
  let before ← isKeyword "WINDOW"
  let first ← windows? g
  let filter ← clause? g "QUALIFY"
  let second ← if before then pure .none else windows? g
  return (first.cover (Expr.extentAll filter)).cover second

/-! ## Selects -/

/-- The expressions after `BY`. -/
def clauseBy? (g : Level) (k : String) : Rule Range := do
  return Expr.extentAll ((← afterAll? [k, "BY"] g.exprs).getD [])

/-- A select, from its first word on; `tables` are those of a FROM clause before it. -/
def selectFrom (g : Level) (tables : Option (List JoinChain)) : Rule Body := do
  let d := g.dialect
  let start ← keyword "SELECT"
  let isDistinct ← selectModifiers g
  let items ← selectItems g
  if d == .redshift then discard (starExclude? d)
  let into ← into? g
  let tables ←
    match tables with
    | some tables => pure tables
    | none =>
      if ← keyword? "FROM" then fromTables g else pure []
  let views ← lateralViews g
  let early ← if d.columnarClauses then clause? g "PREWHERE" else pure []
  let filter ← where? g
  let groups ← groupBy? g
  let cluster ← clauseBy? g "CLUSTER"
  let distribute ← clauseBy? g "DISTRIBUTE"
  let sort ← afterAll? ["SORT", "BY"] (orderItems g)
  let having ← clause? g "HAVING"
  let windows ← windowClauses g
  let hierarchy ← hierarchy? g
  return {
    extent := Range.coverAll ([start.range] ++ items.map (·.extent) ++ [into] ++
      tables.map JoinChain.extent ++
      [views, Expr.extentAll (early ++ filter.toList), hierarchy, groups, cluster, distribute,
        sort.getD .none, Expr.extentAll having, windows])
    statement := .select isDistinct (items.map (·.item)) (tables.flatMap JoinChain.entries)
      (filter.map Expr.toExpression) }

/-- A select that starts with its FROM clause. -/
def fromFirst (g : Level) : Rule Body := do
  let start ← keyword "FROM"
  let tables ← fromTables g
  if ← isKeyword "SELECT" then selectFrom g (some tables)
  else
    return {
      extent := Range.coverAll (start.range :: tables.map JoinChain.extent)
      statement := .select false [] (tables.flatMap JoinChain.entries) none }

/-- The word `TABLE` and a name, after the first word. Three tokens are taken, whether they belong
to the name or not. -/
def namedTableBody : Rule Body := do
  let first ← next
  let second ← next
  let third ← next
  let isWord (t : Option Lexeme) : Bool := (t.bind (·.token.word?)).isSome
  if second.map (·.token) == some (.symbol .period) then
    if !isWord first then throw (.expected "Schema name" first)
    if !isWord third then throw (.expected "Table name" third)
  else if !isWord first then throw (.expected "Table name" first)
  return { extent := .none, statement := .other }

/-- A select, or what may stand in its place. -/
def simpleBody (g : Level) : Rule Body := do
  if ← isKeyword "SELECT" then selectFrom g none
  else if g.dialect.fromFirst && (← isKeyword "FROM") then fromFirst g
  else if ← symbol? .leftParen then
    let q ← g.query
    let _ ← symbol .rightParen
    return { extent := q.extent, statement := q.statement }
  else if ← keyword? "VALUES" then
    return { extent := ← valueRows g, statement := .other }
  else if ← keyword? "TABLE" then namedTableBody
  else expected "SELECT, VALUES, or a subquery in the query body"

/-! ## Set operators -/

/-- Two bodies with a set operator between them. The first one is what completion sees. -/
def combine (left right : Body) : Body :=
  { left with extent := left.extent.cover right.extent }

/-- One of the given set operators, and what stands to its right. -/
def setOperation? (operators : List String) (right : Rule Body) (left : Body) :
    Rule (Option Body) := do
  if (← oneOf? operators).isSome then
    let _ ← setQuantifier
    return some (combine left (← right))
  else return none

/-- Selects with `INTERSECT` between them, which binds tighter than the other set operators. -/
def intersection (g : Level) : Rule Body := do
  iterate (setOperation? ["INTERSECT"] (simpleBody g)) (← simpleBody g)

/-- Selects with set operators between them. -/
def body (g : Level) : Rule Body := do
  let first ← intersection g
  iterate (setOperation? ["UNION", "EXCEPT", "MINUS"] (intersection g)) first

/-! ## Named queries -/

/-- Whether the rows of a named query are kept, if it is said. -/
def materialized? (d : Dialect) : Rule Unit := do
  if d == .postgres then
    if !(← keyword? "MATERIALIZED") then discard (keywords? ["NOT", "MATERIALIZED"])

/-- A query with a name. -/
def namedQuery (g : Level) : Rule Range := do
  let d := g.dialect
  let name ← identifier
  let columns ← if ← isKeyword "AS" then pure [] else aliasColumns g
  let _ ← keyword "AS"
  materialized? d
  let _ ← symbol .leftParen
  let q ← g.query
  let close ← symbol .rightParen
  let source ← after? "FROM" identifier
  return Range.coverAll [name.extent, identsExtent (columns.map (·.1)), q.extent,
    identsExtent source.toList, close.range]

/-- The named queries before a query. -/
def namedQueries? (g : Level) : Rule Range := do
  if ← isKeyword "WITH" then
    let start ← keyword "WITH"
    let _ ← keyword? "RECURSIVE"
    return Range.coverAll (start.range :: (← list g.dialect (namedQuery g)))
  else return .none

/-! ## What follows the selects -/

/-- One of the columns that are interpolated. -/
def interpolation (g : Level) : Rule Range := do
  let column ← identifier
  return column.extent.cover (Expr.extentAll (← clause? g "AS"))

/-- The columns that are interpolated between ordered rows. -/
def interpolate? (g : Level) : Rule Range := do
  if ← onlyIf g.dialect.columnarClauses (keyword? "INTERPOLATE") then
    if ← isSymbol .leftParen then
      return Range.coverAll
        (← parens (listBefore g.dialect .rightParen (interpolation g)))
    else return .none
  else return .none

/-- The order of a query. -/
def orderBy? (g : Level) : Rule Range := do
  let d := g.dialect
  if ← keywords? ["ORDER", "BY"] then
    if ← onlyIf (d == .clickhouse || d == .duckdb) (keyword? "ALL") then
      orderOptions
      return .none
    else
      let items ← orderItems g
      return items.cover (← interpolate? g)
  else return .none

/-- How many rows are passed over, if it is said. -/
def offset? (g : Level) : Rule (List Expr) := do
  let e ← clause? g "OFFSET"
  if !e.isEmpty then discard (oneOf? ["ROW", "ROWS"])
  return e

/-- What follows the number of rows after `LIMIT`. -/
def limitRest (g : Level) (before limit : List Expr) : Rule (List Expr) := do
  let d := g.dialect
  let mayBeOffset := d.limitComma && before.isEmpty && !limit.isEmpty
  if ← onlyIf mayBeOffset (symbol? .comma) then return [← g.anyExpr]
  else
    let groups ← if ← onlyIf d.columnarClauses (keyword? "BY") then g.exprs else pure []
    let after ← if before.isEmpty then offset? g else pure []
    return groups ++ after

/-- The limits of a query. -/
def limit? (g : Level) : Rule Range := do
  let before ← offset? g
  if ← keyword? "LIMIT" then
    let limit ← if ← keyword? "ALL" then pure [] else pure [← g.anyExpr]
    return Expr.extentAll (before ++ limit ++ (← limitRest g before limit))
  else return Expr.extentAll before

/-- How many rows are fetched. -/
def fetch? (d : Dialect) : Rule Range := do
  if ← keyword? "FETCH" then
    let _ ← oneOf? ["FIRST", "NEXT"]
    let extent ←
      if (← oneOf? ["ROW", "ROWS"]).isSome then pure .none
      else
        let quantity ← literal d
        let _ ← keyword? "PERCENT"
        let _ ← oneOf? ["ROW", "ROWS"]
        pure quantity.extent
    if !(← keyword? "ONLY") then discard (keywords? ["WITH", "TIES"])
    return extent
  else return .none

/-- The name of an element in parentheses. -/
def elementName (d : Dialect) : Rule Unit := discard (parens (textLiteral d))

/-- Options with a comma before each; a comma may stand before anything. -/
def formOptions (option : Rule Unit) : Rule Unit :=
  iterate (fun _ => do
    if ← symbol? .comma then
      option
      return some ()
    else return none) ()

/-- The form in which rows are written, after `XML`. -/
def xmlForm (d : Dialect) : Rule Unit := do
  match ← oneOf? ["RAW", "AUTO", "EXPLICIT", "PATH"] with
  | some k =>
    if (k = "RAW" || k = "PATH") && (← isSymbol .leftParen) then elementName d
  | none => throw (.note "Expected FOR XML [RAW | AUTO | EXPLICIT | PATH ]" none)
  formOptions do
    match ← oneOf? ["ELEMENTS", "BINARY", "ROOT", "TYPE"] with
    | some "BINARY" => discard (keyword "BASE64")
    | some "ROOT" => elementName d
    | _ => pure ()

/-- The form in which rows are written, after `JSON`. -/
def jsonForm (d : Dialect) : Rule Unit := do
  if (← oneOf? ["AUTO", "PATH"]).isNone then
    throw (.note "Expected FOR JSON [AUTO | PATH ]" none)
  formOptions do
    match ← oneOf? ["ROOT", "INCLUDE_NULL_VALUES", "WITHOUT_ARRAY_WRAPPER"] with
    | some "ROOT" => elementName d
    | _ => pure ()

/-- A lock on the rows of a query. -/
def rowLock (g : Level) : Rule Unit := do
  let _ ← oneOf ["UPDATE", "SHARE"]
  if ← keyword? "OF" then discard (objectName g)
  if !(← keyword? "NOWAIT") then discard (keywords? ["SKIP", "LOCKED"])

/-- What may follow `FOR`; a lock may be followed by another. -/
def forClause? (g : Level) : (go : Bool) → Rule (Option Bool)
  | false => return none
  | true => do
    if ← keyword? "FOR" then
      if ← keyword? "XML" then
        xmlForm g.dialect
        return some false
      else if ← keyword? "JSON" then
        jsonForm g.dialect
        return some false
      else if ← keyword? "BROWSE" then return some false
      else
        rowLock g
        return some true
    else return none

/-- The format in which rows are written. -/
def format? (d : Dialect) : Rule Unit := do
  if ← onlyIf d.columnarClauses (keyword? "FORMAT") then
    if !(← keyword? "NULL") then discard identifier

/-! ## Queries -/

/-- The selects of a query and what follows them. -/
def queryOf (g : Level) (named : Range) : Rule Query := do
  let b ← body g
  let order ← orderBy? g
  let limit ← limit? g
  let _ ← settings? g
  let fetch ← fetch? g.dialect
  let _ ← iterate (forClause? g) true
  format? g.dialect
  pipes g
  return {
    extent := Range.coverAll [named, b.extent, order, limit, fetch]
    bodyExtent := b.extent
    statement := b.statement }

/-- A query. A change to a table may stand in place of its selects. -/
def query (g : Level) : Rule Query := do
  let named ← namedQueries? g
  let change? : Option (Rule Change) :=
    match ← peekKeyword? with
    | some "INSERT" => some (insert g)
    | some "UPDATE" => some (update g)
    | some "DELETE" => some (delete g)
    | some "MERGE" => some (merge g)
    | _ => none
  match change? with
  | some change =>
    let _ ← next
    let c ← change
    return { extent := named.cover c.extent, bodyExtent := c.extent, statement := .other }
  | none => queryOf g named

end Rule

/-- The rules for expressions and queries that may be nested as often as said. -/
def Level.of (d : Dialect) : (depth : Nat) → Level
  | 0 => {
    dialect := d
    queryIn := fun _ => throw .tooDeep
    exprIn := fun _ _ => throw .tooDeep
    column := throw .tooDeep }
  | depth + 1 =>
    let inner := Level.of d depth
    { dialect := d
      queryIn := fun c => Rule.query (inner.within c)
      exprIn := fun c => Rule.expression (inner.within c)
      column := Rule.columnDefinition inner }

end SqlCompletion.Sql
